import HeaderForge.Text.Basic

/-! How much is logged when the environment does not say. -/

namespace HeaderForge

def defaultDirective (verbose : Bool) : Text :=
  if verbose then "debug".toList else "warn".toList

end HeaderForge
