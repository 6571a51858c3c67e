import ServiceApi.Proofs.Fuel
import ServiceApi.Validate

/-! # Validation and fuel

The names of the properties of a body are the only thing that validation needs fuel for. With more
of it the verdict is the same. -/

namespace ServiceApi

namespace Validate

variable {fuel fuel' : Nat}

theorem propertyNames_cutShort (h : fuel ≤ fuel') (m : MethodScope) (t : TypeExpr) :
    CutShort (propertyNames fuel m t) (propertyNames fuel' m t) := by
  unfold propertyNames
  dsimp only
  split
  · exact .refl _
  · refine (CutShort.refl _).bind fun resource => ?_
    cases resource with
    | some resource => exact .refl _
    | none => exact (m.api.catalog.properties_cutShort h t).bind fun _ => .refl _

theorem resource_cutShort (h : fuel ≤ fuel') (m : MethodScope) (apiNames : List String)
    (p : ParameterConfig) :
    CutShort (resource fuel m apiNames p) (resource fuel' m apiNames p) := by
  unfold resource
  refine (CutShort.refl _).bind fun base => ?_
  dsimp only
  split
  · exact .refl _
  · split
    · exact .refl _
    · exact (propertyNames_cutShort h m base).bind fun _ => .refl _

theorem method_cutShort (h : fuel ≤ fuel') (m : MethodScope) :
    CutShort (method fuel m) (method fuel' m) := by
  unfold method
  cases m.method.returnType?
  case' some t => refine (CutShort.refl _).bind fun _ => ?_
  all_goals
    refine (CutShort.refl _).bind fun sorted => ?_
    dsimp only
    split
    · exact .refl _
    · split
      · exact (resource_cutShort h m sorted.apiNames _).bind fun _ => .refl _
      · exact .refl _

theorem uniqueMethod_cutShort (h : fuel ≤ fuel') (seen : Seen) (m : MethodScope) :
    CutShort (uniqueMethod fuel seen m) (uniqueMethod fuel' seen m) := by
  unfold uniqueMethod
  dsimp only
  split
  · exact .refl _
  · split
    · exact .refl _
    · split
      · exact .refl _
      · exact (method_cutShort h m).bind fun _ => .refl _

theorem configs_cutShort (h : fuel ≤ fuel') (cs : List ApiConfig) :
    CutShort (configs fuel cs) (configs fuel' cs) := by
  cases cs with
  | nil => exact .refl _
  | cons first others =>
    unfold configs
    dsimp only
    refine (CutShort.refl _).bind fun _ => ?_
    split
    · exact .refl _
    · exact (CutShort.foldlM (uniqueMethod_cutShort h) _ _).bind fun _ => .refl _

end Validate
end ServiceApi
