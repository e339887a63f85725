import Mathlib.Algebra.Ring.Nat
import Mathlib.Data.List.TakeWhile
import Mathlib.Tactic.Common
import OperationHooks.Json.Reader
import OperationHooks.Proofs.Json.Members

/-!
# Limits on integers

A limit on the length of integers changes nothing but that reading may end at one that is too long.
So whatever is read under a limit keeps to it, and can be written under the same limit.
-/

namespace OperationHooks

namespace Json

/-- One reading is another one, unless it ends at an integer that is too long. -/
def UpTo {α : Type} (x y : Attempt α) : Prop :=
  (∃ digits, x = .error (.longInteger digits)) ∨ x = y

section Attempts

variable {α β : Type} {x y : Attempt α}

lemma UpTo.refl (x : Attempt α) : UpTo x x := .inr rfl

lemma UpTo.bind {f g : α → Attempt β} (h : UpTo x y) (hf : ∀ a, UpTo (f a) (g a)) :
    UpTo (x >>= f) (y >>= g) := by
  rcases h with ⟨digits, rfl⟩ | rfl
  · exact .inl ⟨digits, rfl⟩
  · cases x with
    | error e => exact .inr rfl
    | ok a => exact hf a

lemma UpTo.map (f : α → β) (h : UpTo x y) : UpTo (x.map f) (y.map f) := by
  rcases h with ⟨digits, rfl⟩ | rfl
  · exact .inl ⟨digits, rfl⟩
  · exact .inr rfl

end Attempts

variable (longest? : Option Nat)

lemma readNumber_upTo (negative : Bool) (cs : List Char) :
    UpTo (readNumber longest? negative cs) (readNumber none negative cs) := by
  cases cs with
  | nil => exact .refl _
  | cons c r =>
    rw [readNumber, readNumber]
    by_cases digit : c.isDigit = true
    · rw [if_pos digit, if_pos digit]
      dsimp only
      generalize (if c = '0' then ([], NoLonger.all r) else readDigits r) = whole
      split
      · rw [Option.any_none]
        split
        · exact .inl ⟨_, rfl⟩
        · exact .refl _
      · exact .refl _
    · rw [if_neg digit, if_neg digit]
      exact .refl _

lemma readSigned_upTo (cs : List Char) :
    UpTo (readSigned longest? cs) (readSigned none cs) := by
  by_cases minus : ∃ r, cs = '-' :: r
  · obtain ⟨r, rfl⟩ := minus
    exact (readNumber_upTo longest? true r).map _
  · rw [readSigned, readSigned]
    · exact readNumber_upTo longest? false cs
    · exact fun r h => minus ⟨r, h⟩
    · exact fun r h => minus ⟨r, h⟩

lemma readPlain_upTo (cs : List Char) : UpTo (readPlain longest? cs) (readPlain none cs) := by
  rw [readPlain, readPlain]
  cases readWord cs with
  | some read => exact .refl _
  | none => exact readSigned_upTo longest? cs

mutual

/-- A value is read as without a limit, unless it holds an integer that is too long. -/
theorem readValue_upTo (cs : List Char) : UpTo (readValue longest? cs) (readValue none cs) := by
  rw [readValue, readValue]
  split
  · exact .refl _
  · split
    · split
      · exact .refl _
      · exact (readItems_upTo _).bind fun _ => .refl _
    · split
      · split
        · exact .refl _
        · exact (readMembers_upTo _).bind fun _ => .refl _
      · exact (readPlain_upTo longest? _).bind fun _ => .refl _
termination_by 2 * cs.length

theorem readItems_upTo (cs : List Char) : UpTo (readItems longest? cs) (readItems none cs) := by
  rw [readItems, readItems]
  refine (readValue_upTo cs).bind fun ⟨v, r₁, h₁⟩ => ?_
  dsimp only
  split
  · exact (readItems_upTo _).bind fun _ => .refl _
  · exact .refl _
termination_by 2 * cs.length + 1

theorem readMembers_upTo (cs : List Char) :
    UpTo (readMembers longest? cs) (readMembers none cs) := by
  rw [readMembers, readMembers]
  refine (UpTo.refl _).bind fun ⟨r₁, h₁⟩ => (UpTo.refl _).bind fun ⟨key, r₂, h₂⟩ =>
    (UpTo.refl _).bind fun ⟨r₃, h₃⟩ => (readValue_upTo r₃).bind fun ⟨v, r₄, h₄⟩ => ?_
  dsimp only
  split
  · exact (readMembers_upTo _).bind fun _ => .refl _
  · exact .refl _
termination_by 2 * cs.length + 1

end

/-- A text is read as without a limit, unless it holds an integer that is too long. -/
theorem read_upTo (s : String) :
    (∃ digits, read longest? s = .error (.longInteger digits)) ∨ read longest? s = read none s := by
  rw [read, read]
  rcases readValue_upTo longest? s.toList with ⟨digits, cut⟩ | same
  · exact .inl ⟨digits, by rw [cut]⟩
  · exact .inr (by rw [same])

/-! ### What is read fits -/

lemma membersFit_iff {longest? : Option Nat} {ms : List (String × Json)} :
    MembersFit longest? ms ↔ ∀ m ∈ ms, m.2.Fits longest? := by
  induction ms with
  | nil => simp [MembersFit]
  | cons m ms ih =>
    obtain ⟨k, v⟩ := m
    rw [MembersFit, ih, List.forall_mem_cons]

lemma digitsValue_concat (ds : List Char) (d : Char) :
    digitsValue (ds ++ [d]) = digitsValue ds * 10 + (d.toNat - 48) := by
  rw [digitsValue, List.foldl_append]
  rfl

/-- What digits spell is below the power of ten that has one digit more. -/
lemma digitsValue_lt {ds : List Char} (digits : ∀ d ∈ ds, d.isDigit = true) :
    digitsValue ds < 10 ^ ds.length := by
  induction ds using List.reverseRecOn with
  | nil => decide
  | append_singleton ds d ih =>
    have front := ih fun d hd => digits d (List.mem_append_left _ hd)
    have last : d.toNat ≤ 57 := by
      have digit := digits d (List.mem_append_right _ List.mem_cons_self)
      simp only [Char.isDigit, Bool.and_eq_true, decide_eq_true_eq, UInt32.le_iff_toNat_le] at digit
      exact digit.2
    rw [digitsValue_concat, List.length_append, List.length_singleton, Nat.pow_succ]
    omega

/-- A number fits that was read of digits which are not too many. -/
lemma fits_int_digitsValue {longest? : Option Nat} {ds : List Char}
    (digits : ∀ d ∈ ds, d.isDigit = true) (some : ds ≠ [])
    (short : ¬longest?.any (· < ds.length)) (negative : Bool) :
    (int (if negative then -digitsValue ds else digitsValue ds)).Fits longest? := by
  rintro longest ⟨⟩
  have size : (if negative then -(digitsValue ds : Int) else digitsValue ds).natAbs =
      digitsValue ds := by
    split
    · rw [Int.natAbs_neg, Int.natAbs_natCast]
    · rw [Int.natAbs_natCast]
  have few : (Nat.toDigits 10 (digitsValue ds)).length ≤ ds.length :=
    (Nat.length_toDigits_le_iff (by decide) (List.length_pos_of_ne_nil some)).mpr
      (digitsValue_lt digits)
  rw [size]
  exact few.trans (by simpa using short)

/-- Whatever a reading comes to has a property. -/
def Yields {α : Type} (P : α → Prop) (x : Attempt α) : Prop := ∀ a, x = .ok a → P a

section Yields

variable {α β : Type} {P : α → Prop} {Q : β → Prop} {x : Attempt α}

lemma yields_ok {a : α} (h : P a) : Yields P (.ok a) := by
  rintro _ ⟨⟩
  exact h

lemma yields_error {e : ReadFault} : Yields P (.error e) := by
  rintro _ ⟨⟩

lemma yields_any (x : Attempt α) : Yields (fun _ => True) x := fun _ _ => trivial

lemma Yields.bind {f : α → Attempt β} (h : Yields P x) (hf : ∀ a, P a → Yields Q (f a)) :
    Yields Q (x >>= f) := by
  cases x with
  | error e => exact yields_error
  | ok a => exact hf a (h a rfl)

lemma Yields.map {f : α → β} (h : Yields P x) (hf : ∀ a, P a → Q (f a)) : Yields Q (x.map f) := by
  cases x with
  | error e => exact yields_error
  | ok a => exact yields_ok (hf a (h a rfl))

end Yields

section Fitting

variable {longest? : Option Nat}

lemma readNumber_fits (negative : Bool) (cs : List Char) :
    Yields (fun read => read.1.Fits longest?) (readNumber longest? negative cs) := by
  cases cs with
  | nil => exact yields_error
  | cons c r =>
    rw [readNumber]
    by_cases digit : c.isDigit = true
    swap
    · rw [if_neg digit]
      exact yields_error
    rw [if_pos digit]
    dsimp only
    have digits : ∀ d ∈ c :: (if c = '0' then ([], NoLonger.all r) else readDigits r).1,
        d.isDigit = true := by
      intro d hd
      rcases List.mem_cons.mp hd with rfl | hd
      · exact digit
      · split_ifs at hd
        · cases hd
        · exact List.mem_takeWhile_imp hd
    generalize (if c = '0' then ([], NoLonger.all r) else readDigits r) = whole at digits
    split
    · split
      · exact yields_error
      · next short =>
        exact yields_ok (fits_int_digitsValue digits (List.cons_ne_nil _ _) short negative)
    · exact yields_ok trivial

lemma readSigned_fits (cs : List Char) :
    Yields (fun read => read.1.Fits longest?) (readSigned longest? cs) := by
  by_cases minus : ∃ r, cs = '-' :: r
  · obtain ⟨r, rfl⟩ := minus
    exact (readNumber_fits true r).map fun _ fits => fits
  · rw [readSigned]
    · exact readNumber_fits false cs
    · exact fun r h => minus ⟨r, h⟩

/-- No word stands for an integer. -/
lemma readWord_fits {cs : List Char} {read : Read cs Json} (h : readWord cs = some read) :
    read.1.Fits longest? := by
  simp only [readWord, Option.orElse_eq_orElse, Option.orElse_eq_or, Option.or_eq_some_iff,
    Option.map_eq_some_iff] at h
  rcases h with ⟨_, -, rfl⟩ | ⟨-, ⟨_, -, rfl⟩ | ⟨-, ⟨_, -, rfl⟩ | ⟨-, ⟨_, -, rfl⟩ |
    ⟨-, ⟨_, -, rfl⟩ | ⟨-, _, -, rfl⟩⟩⟩⟩⟩
  all_goals trivial

lemma readPlain_fits (cs : List Char) :
    Yields (fun read => read.1.Fits longest?) (readPlain longest? cs) := by
  rw [readPlain]
  cases word : readWord cs with
  | some read => exact yields_ok (readWord_fits word)
  | none => exact readSigned_fits cs

lemma fits_ofString (cs rest : List Char) (s : List StringPart) :
    (ofString cs rest s).Fits longest? := by
  rw [ofString]
  split <;> trivial

lemma exists_of_mem_mapM {α β : Type} {f : α → Option β} {xs : List α} {ys : List β}
    (made : xs.mapM f = some ys) {y : β} (hy : y ∈ ys) : ∃ x ∈ xs, f x = some y := by
  induction xs generalizing ys with
  | nil =>
    cases made
    cases hy
  | cons x xs ih =>
    rw [List.mapM_cons] at made
    obtain ⟨first, hfirst, made⟩ := Option.bind_eq_some_iff.mp made
    obtain ⟨rest, hrest, made⟩ := Option.bind_eq_some_iff.mp made
    cases made
    rcases List.mem_cons.mp hy with rfl | hy
    · exact ⟨x, List.mem_cons_self, hfirst⟩
    · obtain ⟨x', hx', same⟩ := ih hrest hy
      exact ⟨x', List.mem_cons_of_mem x hx', same⟩

/-- The values of an object are among those that were read. -/
lemma fits_ofMembers {members : List (List StringPart × Json)}
    (fit : ∀ m ∈ members, m.2.Fits longest?) (cs rest : List Char) :
    (ofMembers cs rest members).Fits longest? := by
  rw [ofMembers]
  split
  · next ms named =>
    refine membersFit_iff.mpr fun m hm => ?_
    obtain ⟨member, hmember, made⟩ :=
      exists_of_mem_mapM named (subset_collectMembers ms hm)
    obtain ⟨key, -, rfl⟩ := Option.map_eq_some_iff.mp made
    exact fit member hmember
  · trivial

mutual

/-- A value that is read under a limit fits. -/
theorem readValue_fits (cs : List Char) :
    Yields (fun read => read.1.Fits longest?) (readValue longest? cs) := by
  rw [readValue]
  split
  · exact (yields_any _).bind fun _ _ => yields_ok (fits_ofString _ _ _)
  · split
    · split
      · exact yields_ok trivial
      · exact (readItems_fits _).bind fun _ fit => yields_ok fit
    · split
      · split
        · exact yields_ok trivial
        · exact (readMembers_fits _).bind fun _ fit => yields_ok (fits_ofMembers fit _ _)
      · exact (readPlain_fits _).bind fun _ fits => yields_ok fits
termination_by 2 * cs.length

theorem readItems_fits (cs : List Char) :
    Yields (fun read => AllFit longest? read.1) (readItems longest? cs) := by
  rw [readItems]
  refine (readValue_fits cs).bind fun ⟨v, r₁, h₁⟩ fits => ?_
  dsimp only
  split
  · exact (readItems_fits _).bind fun _ fit => yields_ok ⟨fits, fit⟩
  · exact (yields_any _).bind fun _ _ => yields_ok ⟨fits, trivial⟩
termination_by 2 * cs.length + 1

theorem readMembers_fits (cs : List Char) :
    Yields (fun read => ∀ m ∈ read.1, m.2.Fits longest?) (readMembers longest? cs) := by
  rw [readMembers]
  refine (yields_any _).bind fun ⟨r₁, h₁⟩ _ => (yields_any _).bind fun ⟨key, r₂, h₂⟩ _ =>
    (yields_any _).bind fun ⟨r₃, h₃⟩ _ => (readValue_fits r₃).bind fun ⟨v, r₄, h₄⟩ fits => ?_
  dsimp only
  split
  · exact (readMembers_fits _).bind fun _ fit => yields_ok (List.forall_mem_cons.mpr ⟨fits, fit⟩)
  · exact (yields_any _).bind fun _ _ => yields_ok (List.forall_mem_singleton.mpr fits)
termination_by 2 * cs.length + 1

end

/-- What a text spells under a limit fits. -/
theorem read_fits {s : String} {v : Json} (h : read longest? s = .ok v) : v.Fits longest? := by
  rw [read] at h
  cases front : readValue longest? s.toList with
  | error e =>
    rw [front] at h
    cases h
  | ok made =>
    rw [front] at h
    dsimp only at h
    split_ifs at h
    cases h
    exact readValue_fits _ _ front

end Fitting

end Json

end OperationHooks
