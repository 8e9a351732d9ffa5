import HeaderForge.Proofs.Json.Rendering
import HeaderForge.Render.Format
import Mathlib.Logic.Function.Basic

/-! Rendered definitions read back from JSON. Each record comes back from its own members, so a
reader of the text that either layout writes has the definitions again. -/

namespace HeaderForge

theorem Json.list?_array {α : Type} {read : Json → Option α} {write : α → Json}
    (h : ∀ a, read (write a) = some a) (as : List α) :
    list? read (.array (as.map write)) = some as := by
  change (as.map write).mapM read = some as
  induction as with
  | nil => rfl
  | cons a as ih => rw [List.map_cons, List.mapM_cons, h, ih]; rfl

theorem TemplateParameter.ofJson?_toJson (p : TemplateParameter) : ofJson? p.toJson = some p :=
  rfl

theorem FunctionParameter.ofJson?_toJson (p : FunctionParameter) : ofJson? p.toJson = some p :=
  rfl

theorem Modifier.ofJson?_text (m : Modifier) : ofJson? (.text m.spelling) = some m := by
  cases m <;> rfl

theorem Declaration.ofJson?_toJson (d : Declaration) : ofJson? d.toJson = some d := by
  have modifiers :
      d.toJson.member? "modifiers".toList (Json.list? Modifier.ofJson?) = some d.modifiers :=
    Json.list?_array Modifier.ofJson?_text d.modifiers
  have name : d.toJson.member? "name".toList Json.text? = some d.name := rfl
  have parameters : d.toJson.member? "parameters".toList (Json.list? FunctionParameter.ofJson?) =
      some d.parameters :=
    Json.list?_array FunctionParameter.ofJson?_toJson d.parameters
  have returnType : d.toJson.member? "return_type".toList Json.text? = some d.returnType := rfl
  unfold ofJson?
  rw [modifiers, name, parameters, returnType]
  rfl

theorem Definition.ofJson?_toJson (d : Definition) : ofJson? d.toJson = some d := by
  have parameters : d.toJson.member? "template-parameters".toList
      (Json.list? TemplateParameter.ofJson?) = some d.templateParameters :=
    Json.list?_array TemplateParameter.ofJson?_toJson d.templateParameters
  have declaration : d.toJson.member? "function_declaration".toList Declaration.ofJson? =
      some d.declaration :=
    d.declaration.ofJson?_toJson
  have body : d.toJson.member? "body".toList Json.text? = some d.body := rfl
  unfold ofJson?
  rw [parameters, declaration, body]
  rfl

def Definition.listJson (ds : List Definition) : Json := .array (ds.map (·.toJson))

theorem Definition.decode?_of_denotes {t : Text} {ds : List Definition}
    (h : Json.Denotes t (listJson ds)) : decode? t = some ds := by
  unfold decode?
  rw [Json.decode?_eq_some_iff.2 h, Option.bind_some]
  exact Json.list?_array ofJson?_toJson ds

theorem Format.decode?_render_json (layout : Json.Layout) (ds : List Definition) :
    Definition.decode? (render (.json layout) ds) = some ds := by
  have newline : Json.Spaces ['\n'] := by simp [Json.Spaces, Json.isSpace]
  exact Definition.decode?_of_denotes
    ((Json.denotes_render layout 0 (Definition.listJson ds)).pad Json.spaces_nil newline)

/-- Either layout is the text of one value and a line feed. The value is the same in both, and the
definitions are read back from it; so no two lists of definitions are written alike. The compact
layout is a single line. -/
theorem render_json :
    (∀ layout ds, ∃ t, Format.render (.json layout) ds = t ++ ['\n'] ∧
      t.getLast? = some ']' ∧
      (∀ v, Json.Denotes t v ↔ v = Definition.listJson ds) ∧
      Definition.decode? (Format.render (.json layout) ds) = some ds) ∧
    (∀ layout, Function.Injective (Format.render (.json layout))) ∧
    ∀ ds, ∃ t, Format.render (.json .compact) ds = t ++ ['\n'] ∧ '\n' ∉ t := by
  refine ⟨fun layout ds => ?_, fun layout ds ds' same => ?_, fun ds => ?_⟩
  · have denotes := Json.denotes_render layout 0 (Definition.listJson ds)
    refine ⟨_, rfl, Json.getLast?_enclose .., fun v => ⟨fun h => h.unique denotes, ?_⟩,
      Format.decode?_render_json layout ds⟩
    rintro rfl
    exact denotes
  · have read := Format.decode?_render_json layout ds
    rw [same, Format.decode?_render_json layout ds'] at read
    exact (Option.some.inj read).symm
  · exact ⟨_, rfl, Json.newline_not_mem_render 0 (Definition.listJson ds)⟩

end HeaderForge
