import Mathlib.Logic.Basic

/-!
# Dependencies by name

Objects cite others by a name, which several objects may share. `Reaches` is the dependency on
one object along citations; what a removal that goes on until nothing left cites a removed
object takes out is exactly what reaches the first (`iff_of_closed`).
-/

namespace VeraMono.Framework

variable {O N : Type}

/-- By citations of objects that are `live`, `o` comes to `x`. -/
inductive Reaches (live : O → Prop) (name : O → N) (cites : O → N → Prop) (x : O) : O → Prop
  | self : Reaches live name cites x x
  | cites {o o' : O} (hlive : live o) (hcites : cites o (name o')) (hreaches : Reaches live name cites x o') :
    Reaches live name cites x o

namespace Reaches

variable {live stored : O → Prop} {name : O → N} {cites : O → N → Prop} {x y o : O}

theorem live_of (hx : live x) : Reaches live name cites x o → live o
  | .self => hx
  | .cites hlive _ _ => hlive

theorem mono (h : ∀ o, live o → stored o) (hr : Reaches live name cites x o) : Reaches stored name cites x o := by
  induction hr with
  | self => exact .self
  | cites hlive hcites _ ih => exact .cites (h _ hlive) hcites ih

theorem removed {rem : O → Prop} (hx : rem x)
    (hclosed : ∀ o o', live o → ¬ rem o → rem o' → ¬ cites o (name o')) (hr : Reaches live name cites x o) :
    rem o := by
  induction hr with
  | self => exact hx
  | cites hlive hcites _ ih => exact by_contra fun hnot => hclosed _ _ hlive hnot ih hcites

/-- What is removed reaches the first, and what reaches it is removed. -/
theorem iff_of_closed (rem : O → Prop) (hx : rem x) (hsound : ∀ o, rem o → Reaches live name cites x o)
    (hclosed : ∀ o o', live o → ¬ rem o → rem o' → ¬ cites o (name o')) :
    rem o ↔ Reaches live name cites x o :=
  ⟨hsound o, removed hx hclosed⟩

/-- Where a live object cites only live ones, the objects that are not live add no path. -/
theorem of_stored (hx : stored x)
    (hresolve : ∀ o o', live o → cites o (name o') → stored o' → live o')
    (hr : Reaches stored name cites x o) (ho : live o) : Reaches live name cites x o := by
  induction hr with
  | self => exact .self
  | cites _ hcites hreaches ih => exact .cites ho hcites (ih (hresolve _ _ ho hcites (hreaches.live_of hx)))

theorem trans (h : Reaches live name cites x y) (h' : Reaches live name cites y o) : Reaches live name cites x o := by
  induction h' with
  | self => exact h
  | cites hlive hcites _ ih => exact .cites hlive hcites ih

/-- What reached `y` still does when what reaches `x` is live no more, or it reaches `x` itself. -/
theorem left_or (hleft : ∀ o, live o → ¬ Reaches live name cites x o → stored o) (h : Reaches live name cites y o) :
    Reaches stored name cites y o ∨ Reaches live name cites x o := by
  induction h with
  | self => exact .inl .self
  | @cites o _ hlive hcites _ ih =>
    by_cases ho : Reaches live name cites x o
    · exact .inr ho
    · exact ih.imp (.cites (hleft o hlive ho) hcites) fun h => .cites hlive hcites h

end Reaches

end VeraMono.Framework
