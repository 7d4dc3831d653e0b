import Mathlib.Data.List.Basic

/-! The introspection records of `lib.rs` that the linter reads: one record per node of a
specifier and the chain of them from the root down. -/
namespace Websocat

inductive SpecifierType where
  | stdio
  | reuser
  | other
  deriving DecidableEq, Repr

structure OneSpecifierInfo where
  multiconnect : Bool
  usesGlobalState : Bool
  typ : SpecifierType
  deriving DecidableEq, Repr

structure SpecifierInfo where
  this : OneSpecifierInfo
  subspecifier : Option SpecifierInfo

namespace SpecifierInfo

/-- The `while let Some(sub) = ss` loop of `collect` entered with `ss = Some(sub)`:
`r.push(sub.this)`, then `ss = sub.subspecifier`. -/
def collectLoop (r : List OneSpecifierInfo) : SpecifierInfo → List OneSpecifierInfo
  | ⟨this, none⟩ => r ++ [this]
  | ⟨this, some sub⟩ => collectLoop (r ++ [this]) sub

/-- `collect()`: `r` starts as `[self.this]`, `ss` as a clone of `self.subspecifier`. -/
def collect (self : SpecifierInfo) : List OneSpecifierInfo :=
  match self.subspecifier with
  | none => [self.this]
  | some sub => collectLoop [self.this] sub

def flat : SpecifierInfo → List OneSpecifierInfo
  | ⟨this, none⟩ => [this]
  | ⟨this, some sub⟩ => this :: flat sub

theorem collectLoop_eq (r : List OneSpecifierInfo) (sub : SpecifierInfo) :
    collectLoop r sub = r ++ sub.flat := by
  induction r, sub using collectLoop.induct with
  | case1 r this => rfl
  | case2 r this sub ih => simp [collectLoop, flat, ih]

theorem collect_eq_flat (self : SpecifierInfo) : self.collect = self.flat := by
  obtain ⟨this, _ | sub⟩ := self
  · rfl
  · simp [collect, flat, collectLoop_eq]

end SpecifierInfo

end Websocat
