import HeaderForge.Catalog.Basic

/-! The catalog that is used when none is given. -/

namespace HeaderForge.Catalog

def texts (names : List String) : List Text := names.map (·.toList)

def builtin : Catalog where
  common := texts
    ["pos", "ray", "line", "seg", "aabb", "sphere", "triangle", "plane"]
  advanced := texts
    ["aabb_boundary", "box", "box_boundary", "capsule", "capsule_boundary", "cone",
     "cone_boundary", "cone_boundary_no_caps", "cylinder", "cylinder_boundary",
     "cylinder_boundary_no_caps", "ellipse", "ellipse_boundary", "frustum", "halfspace",
     "hemisphere", "hemisphere_boundary", "hemisphere_boundary_no_caps", "inf_cone",
     "inf_cone_boundary", "inf_cylinder", "inf_cylinder_boundary", "inf_frustum", "quad",
     "sphere_boundary", "disk", "disk_boundary"]
  unary := texts
    ["edges", "faces", "vertices", "volume", "area", "boundary", "rasterize", "triangulate",
     "triangulation", "centroid", "aabb_of", "any_point", "project", "signed_distance"]
  binarySymmetric := texts
    ["intersects", "intersection", "closest_points", "distance", "distance_sqr"]
  binaryAsymmetric := texts
    ["intersection_parameter", "intersection_parameters", "contains"]

end HeaderForge.Catalog
