/-!
# Sets of characters as ranges of code points
-/

namespace ServiceApi.Text

/-- Closed ranges of code points. -/
abbrev Ranges := List (Nat × Nat)

def Ranges.contain (rs : Ranges) (c : Char) : Bool :=
  rs.any fun (lo, hi) => lo ≤ c.toNat && c.toNat ≤ hi

theorem Ranges.contain_iff {rs : Ranges} {c : Char} :
    rs.contain c = true ↔ ∃ r ∈ rs, r.1 ≤ c.toNat ∧ c.toNat ≤ r.2 := by
  simp [Ranges.contain]

end ServiceApi.Text
