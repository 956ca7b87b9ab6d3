import Mathlib.Data.List.Basic

/-!
# Length prefixes

Texts over any symbols are written one after the other, each behind its length and a separator, and
behind their number. Where no numeral contains the separator, the text is read back whatever follows
it, so that different lists of texts are never written alike.
-/

namespace VeraMono.Framework

/-- A way to write numbers that can be read back. -/
structure Numeral (S : Type) where
  digits : Nat → List S
  value : List S → Nat
  value_digits : ∀ n, value (digits n) = n

/-- No numeral contains a symbol. -/
def Numeral.Free {S : Type} (N : Numeral S) (sep : S) : Prop := ∀ n, sep ∉ N.digits n

variable {S : Type} [DecidableEq S] (N : Numeral S) (sep bar : S)

/-- The number before the first separator, and what follows it. -/
def readNumber (symbols : List S) : Nat × List S :=
  (N.value (symbols.takeWhile (· ≠ sep)), (symbols.dropWhile (· ≠ sep)).tail)

omit [DecidableEq S] in
/-- A text behind its length. -/
def frame (text : List S) : List S := N.digits text.length ++ sep :: text

/-- The first text, and what follows it. -/
def unframe (symbols : List S) : List S × List S :=
  let (n, rest) := readNumber N sep symbols
  (rest.take n, rest.drop n)

def unframes : Nat → List S → List (List S)
  | 0, _ => []
  | n + 1, symbols =>
    let (text, rest) := unframe N sep symbols
    text :: unframes n rest

omit [DecidableEq S] in
/-- Texts behind their number. -/
def frameTuple (texts : List (List S)) : List S := N.digits texts.length ++ bar :: texts.flatMap (frame N sep)

def unframeTuple (symbols : List S) : List (List S) :=
  let (n, rest) := readNumber N bar symbols
  unframes N sep n rest

variable {N sep bar} {pre rest : List S}

/-! ## Up to a separator -/

theorem takeWhile_until (h : sep ∉ pre) : (pre ++ sep :: rest).takeWhile (· ≠ sep) = pre := by
  have hpre : ∀ x ∈ pre, decide (x ≠ sep) = true := fun x hx => decide_eq_true fun heq => h (heq ▸ hx)
  rw [List.takeWhile_append_of_pos hpre, List.takeWhile_cons_of_neg (by simp), List.append_nil]

theorem dropWhile_until (h : sep ∉ pre) : (pre ++ sep :: rest).dropWhile (· ≠ sep) = sep :: rest := by
  have hpre : ∀ x ∈ pre, decide (x ≠ sep) = true := fun x hx => decide_eq_true fun heq => h (heq ▸ hx)
  rw [List.dropWhile_append_of_pos hpre, List.dropWhile_cons_of_neg (by simp)]

/-- A text is cut in one way at a symbol that it does not contain before. -/
theorem until_inj {pre' rest' : List S} (h : sep ∉ pre) (h' : sep ∉ pre')
    (heq : pre ++ sep :: rest = pre' ++ sep :: rest') : pre = pre' ∧ rest = rest' := by
  have hpre := congrArg (List.takeWhile (· ≠ sep)) heq
  rw [takeWhile_until h, takeWhile_until h'] at hpre
  subst hpre
  exact ⟨rfl, List.cons_injective (List.append_cancel_left heq)⟩

/-! ## Reading back -/

theorem readNumber_digits (hfree : N.Free sep) (n : Nat) : readNumber N sep (N.digits n ++ sep :: rest) = (n, rest) := by
  rw [readNumber, takeWhile_until (hfree n), dropWhile_until (hfree n), N.value_digits, List.tail_cons]

theorem unframe_frame (hfree : N.Free sep) (text : List S) : unframe N sep (frame N sep text ++ rest) = (text, rest) := by
  rw [unframe, frame, List.append_assoc, List.cons_append, readNumber_digits hfree]
  exact Prod.ext List.take_left List.drop_left

theorem unframes_flatMap (hfree : N.Free sep) (texts : List (List S)) :
    unframes N sep texts.length (texts.flatMap (frame N sep) ++ rest) = texts := by
  induction texts with
  | nil => rfl
  | cons text texts ih =>
    rw [List.flatMap_cons, List.append_assoc, List.length_cons, unframes, unframe_frame hfree]
    exact congrArg _ ih

theorem unframeTuple_frameTuple (hfree : N.Free sep) (hbar : N.Free bar) (texts : List (List S)) (rest : List S) :
    unframeTuple N sep bar (frameTuple N sep bar texts ++ rest) = texts := by
  rw [unframeTuple, frameTuple, List.append_assoc, List.cons_append, readNumber_digits hbar]
  exact unframes_flatMap hfree texts

end VeraMono.Framework
