import Mathlib.Tactic.Common
import OperationHooks.GraphQL.Reader
import OperationHooks.GraphQL.Spreads

/-!
# What readers take

A reader takes the tokens in front of a stream and leaves what stands behind them. Which fragments
these tokens spread can be told without reading them: a fragment is spread by its name behind an
ellipsis, and the one word that is no name of a fragment starts a type condition. For each reader
one lemma says that what it returns spreads the fragments that the tokens it takes spread. Most
readers meet no ellipsis at all, and those of selections meet all of them.
-/

namespace OperationHooks

/-! ### Names behind an ellipsis -/

/-- The fragments that tokens spread, one by one: the names that stand right behind an ellipsis,
other than `on`. -/
def namesSpread : List Token → List String
  | .mark .spread :: .name n :: ts =>
    if n.text = "on" then namesSpread ts else n.text :: namesSpread ts
  | _ :: ts => namesSpread ts
  | [] => []

lemma namesSpread_cons {t : Token} (h : t ≠ .mark .spread) (ts : List Token) :
    namesSpread (t :: ts) = namesSpread ts := by
  rw [namesSpread]
  intro n ts' ht
  exact absurd ht h

lemma namesSpread_spread_cons {t : Token} (h : ∀ n, t ≠ .name n) (ts : List Token) :
    namesSpread (.mark .spread :: t :: ts) = namesSpread (t :: ts) := by
  rw [namesSpread]
  rintro n ts' - heq
  exact h n (List.cons.inj heq).1

namespace Stream

/-! ### Tokens in front of a stream -/

/-- Tokens in front of a stream, and what stands behind them: another token or the end. -/
inductive Reads : Stream → List Token → Stream → Prop where
  | nothing {s : Stream} : Reads s [] s
  | token {t : Token} {left : Nat} {rest r : Stream} {ts : List Token}
    (sound : ∀ e, rest ≠ .stuck e) (h : Reads rest ts r) : Reads (.more t left rest) (t :: ts) r

variable {s r r' : Stream} {t : Token} {ts us : List Token}

lemma Reads.trans (h : s.Reads ts r) (h' : r.Reads us r') : s.Reads (ts ++ us) r' := by
  induction h with
  | nothing => exact h'
  | token sound _ ih => exact .token sound (ih h')

lemma Reads.tokens?_eq (h : s.Reads ts r) : s.tokens? = r.tokens?.map (ts ++ ·) := by
  induction h with
  | nothing => simp
  | token _ _ ih =>
    rw [tokens?, ih, Option.map_map]
    rfl

lemma Reads.size_eq (h : s.Reads ts r) : s.size = ts.length + r.size := by
  induction h with
  | nothing => simp
  | token _ _ ih => rw [size, ih, List.length_cons, Nat.add_right_comm]

lemma Reads.unique (h : s.Reads ts r) (h' : s.Reads us r) : ts = us := by
  induction h generalizing us with
  | nothing =>
    have same := h'.size_eq
    exact (List.length_eq_zero_iff.mp (by omega)).symm
  | token _ h ih =>
    have short := h.size_eq
    cases h' with
    | nothing =>
      rw [size] at short
      omega
    | token _ h' => rw [ih h']

lemma Reads.token?_eq (h : s.Reads (t :: ts) r) : s.token? = some t := by
  cases h
  rfl

/-- What stands behind a token can be scanned. -/
lemma Reads.ne_stuck (h : s.Reads ts r) (hs : ∀ e, s ≠ .stuck e) (e : SourceError) :
    r ≠ .stuck e := by
  induction h with
  | nothing => exact hs e
  | token sound _ ih => exact ih sound

lemma reads_advance {h : r.size < s.size} (read : s.advance = .ok (t, ⟨r, h⟩)) :
    s.Reads [t] r := by
  cases s with
  | done => cases read
  | stuck _ => cases read
  | more u n rest =>
    cases rest with
    | stuck _ => cases read
    | done =>
      cases read
      exact .token (by simp) .nothing
    | more _ _ _ =>
      cases read
      exact .token (by simp) .nothing

/-- The tokens up to a stream spread these fragments, whatever stands behind. -/
def Passes (s : Stream) (names : List String) (r : Stream) : Prop :=
  ∃ ts, s.Reads ts r ∧ ∀ us, namesSpread (ts ++ us) = names ++ namesSpread us

lemma Passes.refl : s.Passes [] s := ⟨[], .nothing, fun _ => rfl⟩

lemma Passes.trans {names names' : List String} (h : s.Passes names r)
    (h' : r.Passes names' r') : s.Passes (names ++ names') r' := by
  obtain ⟨ts, taken, met⟩ := h
  obtain ⟨ts', taken', met'⟩ := h'
  refine ⟨ts ++ ts', taken.trans taken', fun us => ?_⟩
  rw [List.append_assoc, met, met', List.append_assoc]

lemma Reads.passes (h : s.Reads [t] r) (plain : t ≠ .mark .spread) : s.Passes [] r :=
  ⟨[t], h, fun us => namesSpread_cons plain us⟩

end Stream

/-! ### Readings -/

/-- What is read spreads first the fragments `met`, which stood in front of the stream, and then
those that the tokens taken from the stream spread. -/
def Reading.Gives {α : Type} {p : Stream → Prop} (met : List String) (s : Stream)
    (names : α → List String) (x : Reading (α × { r : Stream // p r })) : Prop :=
  ∀ a r h, x = .ok (a, ⟨r, h⟩) → ∃ rest, names a = met ++ rest ∧ s.Passes rest r

/-- Nothing is spread by what is read, nor by the tokens taken for it. -/
abbrev Reading.Plain {α : Type} {p : Stream → Prop} (s : Stream)
    (x : Reading (α × { r : Stream // p r })) : Prop :=
  x.Gives [] s fun _ => []

namespace Reading

variable {α β : Type} {p q : Stream → Prop} {s r : Stream} {met : List String}

lemma exists_of_bind {x : Reading α} {f : α → Reading β} {b : β}
    (h : x >>= f = .ok b) : ∃ a, x = .ok a ∧ f a = .ok b := by
  cases x with
  | error e => cases h
  | ok a => exact ⟨a, rfl, h⟩

lemma Gives.passes {x : Reading (α × { r : Stream // p r })} {names : α → List String} {a : α}
    {h : p r} (hx : x.Gives [] s names) (read : x = .ok (a, ⟨r, h⟩)) : s.Passes (names a) r := by
  obtain ⟨rest, names_a, passed⟩ := hx a r h read
  rw [names_a]
  exact passed

/-- One reading after the other. -/
lemma Gives.bind {x : Reading (α × { r : Stream // p r })}
    {f : α × { r : Stream // p r } → Reading (β × { r : Stream // q r })}
    {first : α → List String} {names : β → List String} (hx : x.Gives [] s first)
    (hf : ∀ a r h, (f (a, ⟨r, h⟩)).Gives (met ++ first a) r names) :
    Gives met s names (x >>= f) := by
  intro b r' h' read
  obtain ⟨⟨a, r, h⟩, read_a, read_b⟩ := exists_of_bind read
  obtain ⟨rest, names_a, passed⟩ := hx a r h read_a
  obtain ⟨rest', names_b, passed'⟩ := hf a r h b r' h' read_b
  rw [List.nil_append] at names_a
  exact ⟨rest ++ rest', by rw [names_b, names_a, List.append_assoc], passed.trans passed'⟩

/-- A reading behind a check. -/
lemma Gives.after {α : Type} {check : Reading α} {f : α → Reading (β × { r : Stream // q r })}
    {names : β → List String} (hf : ∀ a, (f a).Gives met s names) :
    Gives met s names (check >>= f) := by
  intro b r h read
  obtain ⟨a, -, read_b⟩ := exists_of_bind read
  exact hf a b r h read_b

lemma Gives.ite {c : Prop} [Decidable c] {x y : Reading (α × { r : Stream // p r })}
    {names : α → List String} (hx : c → x.Gives met s names) (hy : ¬c → y.Gives met s names) :
    Gives met s names (if c then x else y) := by
  split
  · exact hx ‹_›
  · exact hy ‹_›

/-- All is read. -/
lemma Gives.done {a : α} {h : p s} {names : α → List String} (ha : names a = met) :
    Gives met s names (.ok (a, ⟨s, h⟩)) := by
  intro b r h' read
  cases read
  exact ⟨[], by rw [ha, List.append_nil], .refl⟩

lemma Gives.refused {e : SourceError} {names : α → List String} :
    Gives met s names (.error e : Reading (α × { r : Stream // p r })) :=
  fun _ _ _ read => by cases read

end Reading

/-- The selections of an operation or a fragment; other definitions have none. -/
def Definition.selections : Definition → List Selection
  | .operation o => o.selections
  | .fragment f => f.selections
  | _ => []

namespace Stream

open Reading

/-! ### Tokens -/

variable {α : Type}

lemma token?_of_startsWith {s : Stream} {p : Punctuator} (h : s.startsWith p = true) :
    s.token? = some (.mark p) := by
  simpa [startsWith] using h

lemma reads_front {s r : Stream} {t u : Token} {h : r.size < s.size} (front : s.token? = some t)
    (read : s.advance = .ok (u, ⟨r, h⟩)) : s.Reads [t] r := by
  have taken := reads_advance read
  have same : u = t := Option.some.inj (taken.token?_eq.symm.trans front)
  exact same ▸ taken

lemma plain_advance {s : Stream} {t : Token} (front : s.token? = some t)
    (ht : t ≠ .mark .spread) : Plain s s.advance :=
  fun _ _ _ read => ⟨[], rfl, (reads_front front read).passes ht⟩

lemma plain_advance_mark {s : Stream} {p : Punctuator} (hp : p ≠ .spread)
    (h : s.startsWith p = true) : Plain s s.advance :=
  plain_advance (token?_of_startsWith h) (by simpa using hp)

lemma plain_expect (s : Stream) {p : Punctuator} (hp : p ≠ .spread) : Plain s (s.expect p) :=
  .ite (fun h => (plain_advance_mark hp h).bind fun _ _ _ => .done rfl) fun _ => .refused

lemma plain_accept (s : Stream) {p : Punctuator} (hp : p ≠ .spread) : Plain s (s.accept p) :=
  .ite (fun h => (plain_advance_mark hp h).bind fun _ _ _ => .done rfl) fun _ => .done rfl

lemma token?_of_startsWithWord {s : Stream} {word : String} (h : s.startsWithWord word = true) :
    ∃ n : Name, s.token? = some (.name n) ∧ n.text = word := by
  rw [startsWithWord] at h
  split at h
  · exact ⟨_, ‹_›, by simpa using h⟩
  · cases h

lemma plain_advance_word {s : Stream} {word : String} (h : s.startsWithWord word = true) :
    Plain s s.advance := by
  obtain ⟨n, hn, -⟩ := token?_of_startsWithWord h
  exact plain_advance hn (by simp)

lemma plain_expectWord (s : Stream) (word : String) : Plain s (s.expectWord word) :=
  .ite (fun h => (plain_advance_word h).bind fun _ _ _ => .done rfl) fun _ => .refused

lemma plain_acceptWord (s : Stream) (word : String) : Plain s (s.acceptWord word) :=
  .ite (fun h => (plain_advance_word h).bind fun _ _ _ => .done rfl) fun _ => .done rfl

/-- A word that is accepted is taken, and otherwise nothing is. -/
lemma acceptWord_cases {s r : Stream} {word : String} {b : Bool} {h : r.size ≤ s.size}
    (read : s.acceptWord word = .ok (b, ⟨r, h⟩)) :
    (b = true ∧ ∃ n : Name, n.text = word ∧ s.Reads [.name n] r) ∨
      (b = false ∧ r = s ∧ s.startsWithWord word = false) := by
  rw [acceptWord] at read
  split at read
  next starts =>
    obtain ⟨n, hn, text⟩ := token?_of_startsWithWord starts
    obtain ⟨⟨t, r', h'⟩, advanced, read⟩ := exists_of_bind read
    cases read
    exact .inl ⟨rfl, n, text, reads_front hn advanced⟩
  next starts =>
    cases read
    exact .inr ⟨rfl, rfl, by simpa using starts⟩

lemma reads_name {s r : Stream} {n : Name} {h : r.size < s.size}
    (read : s.name = .ok (n, ⟨r, h⟩)) : s.Reads [.name n] r := by
  rw [name] at read
  split at read
  next m hm =>
    obtain ⟨⟨t, r', h'⟩, advanced, read⟩ := exists_of_bind read
    cases read
    exact reads_front hm advanced
  next => cases read

lemma plain_name (s : Stream) : Plain s s.name :=
  fun _ _ _ read => ⟨[], rfl, (reads_name read).passes (by simp)⟩

/-! ### Repetition -/

section Repetition

variable {close : Punctuator} {names : α → List String}

/-- Each item spreads its own fragments. -/
lemma gives_upTo {bound : Nat} {item : (s : Stream) → s.size < bound → Reading (Past s α)}
    (hclose : close ≠ .spread) (hitem : ∀ r hr, (item r hr).Gives [] r names) (s : Stream)
    (h : s.size < bound) : (upTo bound item close s h).Gives [] s (·.flatMap names) := by
  rw [upTo]
  refine .ite (fun closed => (plain_advance_mark hclose closed).bind fun _ _ _ => .done rfl) ?_
  intro _
  refine (hitem s h).bind fun x r₁ h₁ => ?_
  exact (gives_upTo hclose hitem r₁ _).bind fun xs r₂ h₂ => .done List.flatMap_cons
termination_by s.size

lemma gives_anyBetween {opening : Punctuator} {s : Stream}
    {item : (r : Stream) → r.size < s.size → Reading (Past r α)} (hopening : opening ≠ .spread)
    (hclose : close ≠ .spread) (hitem : ∀ r hr, (item r hr).Gives [] r names) :
    (anyBetween opening close s item).Gives [] s (·.flatMap names) :=
  (plain_expect s hopening).bind fun _ r₁ _ =>
    (gives_upTo hclose hitem r₁ _).bind fun _ _ _ => .done rfl

end Repetition

/-! Items that spread nothing make up what spreads nothing. -/

section Plain

variable {opening close mark : Punctuator} {item : (r : Stream) → Reading (Past r α)}

lemma plain_anyBetween {s : Stream} {item : (r : Stream) → r.size < s.size → Reading (Past r α)}
    (hopening : opening ≠ .spread) (hclose : close ≠ .spread)
    (hitem : ∀ r hr, Plain r (item r hr)) : Plain s (anyBetween opening close s item) := by
  intro xs r h read
  obtain ⟨rest, names, passed⟩ := gives_anyBetween hopening hclose hitem xs r h read
  refine ⟨rest, ?_, passed⟩
  rw [← names]
  simp

lemma plain_someBetween (hopening : opening ≠ .spread) (hclose : close ≠ .spread)
    (hitem : ∀ r, Plain r (item r)) (s : Stream) : Plain s (someBetween opening close item s) :=
  (plain_expect s hopening).bind fun _ r₁ _ => (hitem r₁).bind fun _ r₂ _ =>
    (gives_upTo hclose (fun r _ => hitem r) r₂ _).bind fun _ _ _ => .done (by simp)

lemma plain_maybeBetween (hopening : opening ≠ .spread) (hclose : close ≠ .spread)
    (hitem : ∀ r, Plain r (item r)) (s : Stream) :
    Plain s (maybeBetween opening close item s) :=
  .ite (fun _ => (plain_someBetween hopening hclose hitem s).bind fun _ _ _ => .done rfl)
    fun _ => .done rfl

lemma plain_separated (hmark : mark ≠ .spread) (hitem : ∀ r, Plain r (item r)) (s : Stream) :
    Plain s (separated mark item s) := by
  rw [separated]
  refine (hitem s).bind fun x r₁ h₁ => .ite (fun marked => ?_) fun _ => .done rfl
  refine (plain_advance_mark hmark marked).bind fun _ r₂ h₂ => ?_
  exact (plain_separated hmark hitem r₂).bind fun _ _ _ => .done rfl
termination_by s.size
decreasing_by exact Nat.lt_trans h₂ h₁

lemma plain_delimited (hmark : mark ≠ .spread) (hitem : ∀ r, Plain r (item r)) (s : Stream) :
    Plain s (delimited mark item s) :=
  (plain_accept s hmark).bind fun _ r₁ _ =>
    (plain_separated hmark hitem r₁).bind fun _ _ _ => .done rfl

lemma plain_whileMark (hitem : ∀ r, Plain r (item r)) (s : Stream) :
    Plain s (whileMark mark item s) := by
  rw [whileMark]
  refine .ite (fun _ => (hitem s).bind fun _ r₁ h₁ => ?_) fun _ => .done rfl
  exact (plain_whileMark hitem r₁).bind fun _ _ _ => .done rfl
termination_by s.size

end Plain

/-! ### Types, values and directives -/

lemma plain_nestedTypeRef (depth : Nat) (s : Stream) : Plain s (nestedTypeRef depth s) := by
  rw [nestedTypeRef]
  refine .ite (fun opened => ?_) fun _ => ?_
  · refine (plain_advance_mark (by decide) opened).bind fun _ r₁ h₁ => .after fun _ => ?_
    refine (plain_nestedTypeRef (depth + 1) r₁).bind fun _ r₂ _ => ?_
    refine (plain_expect r₂ (by decide)).bind fun _ r₃ _ => ?_
    exact (plain_accept r₃ (by decide)).bind fun _ _ _ => .done rfl
  · refine (plain_name s).bind fun _ r₁ _ => ?_
    exact (plain_accept r₁ (by decide)).bind fun _ _ _ => .done rfl
termination_by s.size

lemma plain_typeRef (s : Stream) : Plain s s.typeRef := plain_nestedTypeRef 0 s

lemma plain_variableName (s : Stream) : Plain s s.variableName := by
  refine (plain_expect s (by decide)).bind fun _ r₁ _ => ?_
  exact (plain_name r₁).bind fun _ _ _ => .done rfl

lemma plain_refuseVariable {α : Type} {p : Stream → Prop} (s : Stream) :
    Plain s (s.refuseVariable : Reading (α × { r : Stream // p r })) := by
  refine .after fun ⟨_, r, _⟩ => ?_
  dsimp only
  split <;> exact .refused

lemma plain_value (depth : Nat) (constant : Bool) (s : Stream) :
    Plain s (value depth constant s) := by
  have ih (r : Stream) (shorter : r.size < s.size) :
      Plain r (value (depth + 1) constant r) := plain_value (depth + 1) constant r
  rw [value]
  split
  next h =>
    exact .after fun _ => (plain_anyBetween (by decide) (by decide) ih).bind fun _ _ _ => .done rfl
  next h =>
    refine .after fun _ => (plain_anyBetween (by decide) (by decide) fun r hr => ?_).bind
      fun _ _ _ => .done rfl
    refine (plain_name r).bind fun _ r₁ h₁ => ?_
    refine (plain_expect r₁ (by decide)).bind fun _ r₂ h₂ => ?_
    exact (ih r₂ (Nat.lt_trans h₂ (Nat.lt_trans h₁ hr))).bind fun _ _ _ => .done rfl
  next h => exact (plain_advance h (by simp)).bind fun _ _ _ => .done rfl
  next h => exact (plain_advance h (by simp)).bind fun _ _ _ => .done rfl
  next h => exact (plain_advance h (by simp)).bind fun _ _ _ => .done rfl
  next h => exact (plain_advance h (by simp)).bind fun _ _ _ => .done rfl
  next h =>
    refine .ite (fun _ => plain_refuseVariable s) fun _ => ?_
    exact (plain_variableName s).bind fun _ _ _ => .done rfl
  next => exact .refused
termination_by s.size

lemma plain_argument (depth : Nat) (constant : Bool) (s : Stream) :
    Plain s (argument depth constant s) := by
  refine (plain_name s).bind fun _ r₁ _ => ?_
  refine (plain_expect r₁ (by decide)).bind fun _ r₂ _ => ?_
  exact (plain_value depth constant r₂).bind fun _ _ _ => .done rfl

lemma plain_arguments (depth : Nat) (constant : Bool) (s : Stream) :
    Plain s (arguments depth constant s) :=
  plain_maybeBetween (by decide) (by decide) (plain_argument depth constant) s

lemma plain_directive (depth : Nat) (constant : Bool) (s : Stream) :
    Plain s (directive depth constant s) := by
  refine (plain_expect s (by decide)).bind fun _ r₁ _ => ?_
  refine (plain_name r₁).bind fun _ r₂ _ => ?_
  exact (plain_arguments depth constant r₂).bind fun _ _ _ => .done rfl

lemma plain_directives (depth : Nat) (constant : Bool) (s : Stream) :
    Plain s (directives depth constant s) :=
  plain_whileMark (plain_directive depth constant) s

lemma plain_constantDirectives (s : Stream) : Plain s (constantDirectives s) :=
  plain_directives 0 true s

lemma plain_defaultValue (s : Stream) : Plain s s.defaultValue := by
  refine .ite (fun marked => ?_) fun _ => .done rfl
  refine (plain_advance_mark (by decide) marked).bind fun _ r₁ _ => ?_
  exact (plain_value 0 true r₁).bind fun _ _ _ => .done rfl

lemma plain_description (s : Stream) : Plain s s.description := by
  rw [description]
  split
  next h => exact (plain_advance h (by simp)).bind fun _ _ _ => .done rfl
  next h => exact (plain_advance h (by simp)).bind fun _ _ _ => .done rfl
  next => exact .done rfl

/-! ### Selections -/

lemma plain_field (depth : Nat) (s : Stream) : Plain s (field depth s) := by
  refine (plain_name s).bind fun _ r₁ _ => ?_
  refine (plain_accept r₁ (by decide)).bind fun _ r₂ _ => ?_
  -- behind an alias stands the name of the field
  refine .ite (fun _ => (plain_name r₂).bind fun _ r₃ _ => ?_) fun _ => ?_
  all_goals
    refine (plain_arguments depth false _).bind fun _ r₄ _ => ?_
    exact (plain_directives depth false r₄).bind fun _ _ _ => .done rfl

/-- A name behind an ellipsis is a fragment that is spread. -/
lemma Reads.passes_spread {s r₁ r₂ : Stream} {n : Name} (ellipsis : s.Reads [.mark .spread] r₁)
    (named : r₁.Reads [.name n] r₂) (hn : n.text ≠ "on") : s.Passes [n.text] r₂ := by
  refine ⟨[.mark .spread, .name n], ellipsis.trans named, fun us => ?_⟩
  rw [List.cons_append, List.cons_append, List.nil_append, namesSpread, if_neg hn]
  rfl

/-- Behind an ellipsis and the word `on` stands a type condition. -/
lemma Reads.passes_condition {s r₁ r₂ : Stream} {n : Name} (ellipsis : s.Reads [.mark .spread] r₁)
    (named : r₁.Reads [.name n] r₂) (hn : n.text = "on") : s.Passes [] r₂ := by
  refine ⟨[.mark .spread, .name n], ellipsis.trans named, fun us => ?_⟩
  rw [List.cons_append, List.cons_append, List.nil_append, namesSpread, if_pos hn]
  rfl

/-- An ellipsis with no name behind it spreads nothing. -/
lemma Reads.passes_unnamed {s r₁ r₂ : Stream} {names : List String}
    (ellipsis : s.Reads [.mark .spread] r₁) (unnamed : ∀ n, r₁.token? ≠ some (.name n))
    (passed : r₁.Passes names r₂) (shorter : r₂.size < r₁.size) : s.Passes names r₂ := by
  obtain ⟨ts, taken, met⟩ := passed
  refine ⟨.mark .spread :: ts, ellipsis.trans taken, fun us => ?_⟩
  cases ts with
  | nil =>
    rw [taken.size_eq] at shorter
    simp at shorter
  | cons t ts =>
    have other (n : Name) : t ≠ .name n := fun ht => unnamed n (ht ▸ taken.token?_eq)
    rw [← met, List.cons_append, List.cons_append, namesSpread_spread_cons other]

lemma spreadsAll_eq_flatMap (xs : List Selection) :
    Selection.spreadsAll xs = xs.flatMap Selection.spreads := by
  induction xs with
  | nil => rfl
  | cons x xs ih => rw [Selection.spreadsAll, List.flatMap_cons, ih]

/-- Directives and selections, as they stand in an inline fragment. -/
lemma passes_inside {depth : Nat} {s r₁ r₂ : Stream} {ds : List Directive} {xs : List Selection}
    {h₁ : r₁.size ≤ s.size} {h₂ : r₂.size < r₁.size}
    (given : ∀ r, r.size < r₁.size → (selection (depth + 1) r).Gives [] r Selection.spreads)
    (directed : directives depth false s = .ok (ds, ⟨r₁, h₁⟩))
    (selected : anyBetween .braceL .braceR r₁ (fun r _ => selection (depth + 1) r) =
      .ok (xs, ⟨r₂, h₂⟩)) : s.Passes (Selection.spreadsAll xs) r₂ := by
  have inside := Gives.passes (gives_anyBetween (by decide) (by decide) given) selected
  rw [spreadsAll_eq_flatMap]
  exact (Gives.passes (plain_directives depth false s) directed).trans inside

/-- Behind an ellipsis stands the name of a fragment, or an inline fragment with or without a type
condition. -/
lemma passes_ellipsis {depth : Nat} {s r : Stream} {x : Selection} {h : r.size < s.size}
    (given : ∀ r, r.size < s.size → (selection (depth + 1) r).Gives [] r Selection.spreads)
    (marked : s.startsWith .spread = true) (read : selection depth s = .ok (x, ⟨r, h⟩)) :
    s.Passes x.spreads r := by
  rw [selection, if_pos marked] at read
  obtain ⟨⟨t, r₁, h₁⟩, advanced, read⟩ := exists_of_bind read
  obtain ⟨⟨conditional, r₂, h₂⟩, accepted, read⟩ := exists_of_bind read
  have ellipsis : s.Reads [.mark .spread] r₁ := reads_front (token?_of_startsWith marked) advanced
  dsimp only at read
  split at read
  next n front =>
    obtain ⟨⟨m, r₃, h₃⟩, named, read⟩ := exists_of_bind read
    obtain ⟨⟨ds, r₄, h₄⟩, directed, read⟩ := exists_of_bind read
    cases read
    obtain ⟨h, -⟩ | ⟨-, rfl, other⟩ := acceptWord_cases accepted
    · cases h
    have name := reads_name named
    have notOn : m.text ≠ "on" := by
      rw [startsWithWord, name.token?_eq] at other
      simpa using other
    exact (ellipsis.passes_spread name notOn).trans
      (Gives.passes (plain_directives depth false r₃) directed)
  next unnamed =>
    split at read
    next condition =>
      obtain ⟨⟨m, r₃, h₃⟩, named, read⟩ := exists_of_bind read
      obtain ⟨_, same, read⟩ := exists_of_bind read
      cases same
      obtain ⟨⟨ds, r₄, h₄⟩, directed, read⟩ := exists_of_bind read
      obtain ⟨-, -, read⟩ := exists_of_bind read
      obtain ⟨⟨xs, r₅, h₅⟩, selected, read⟩ := exists_of_bind read
      cases read
      have short : r₄.size < s.size :=
        Nat.lt_of_le_of_lt (Nat.le_trans h₄ (Nat.le_trans (Nat.le_of_lt h₃) h₂)) h₁
      have inside := passes_inside (fun r hr => given r (Nat.lt_trans hr short)) directed selected
      obtain ⟨-, n, hn, word⟩ | ⟨rfl, -, -⟩ := acceptWord_cases accepted
      · have name := (reads_name named).passes (by simp)
        exact (ellipsis.passes_condition word hn).trans (name.trans inside)
      · cases condition
    next condition =>
      obtain ⟨_, same, read⟩ := exists_of_bind read
      cases same
      obtain ⟨⟨ds, r₄, h₄⟩, directed, read⟩ := exists_of_bind read
      obtain ⟨-, -, read⟩ := exists_of_bind read
      obtain ⟨⟨xs, r₅, h₅⟩, selected, read⟩ := exists_of_bind read
      cases read
      have short : r₄.size < s.size := Nat.lt_of_le_of_lt (Nat.le_trans h₄ h₂) h₁
      have inside := passes_inside (fun r hr => given r (Nat.lt_trans hr short)) directed selected
      obtain ⟨rfl, -⟩ | ⟨rfl, rfl, -⟩ := acceptWord_cases accepted
      · exact absurd rfl condition
      · exact ellipsis.passes_unnamed (fun n front => unnamed n rfl front) inside
          (Nat.lt_of_lt_of_le h₅ h₄)

/-- A selection spreads what the tokens taken for it spread. -/
lemma gives_selection (depth : Nat) (s : Stream) :
    (selection depth s).Gives [] s Selection.spreads := by
  have ih (r : Stream) (shorter : r.size < s.size) :
      (selection (depth + 1) r).Gives [] r Selection.spreads := gives_selection (depth + 1) r
  by_cases marked : s.startsWith .spread = true
  · exact fun x r h read => ⟨x.spreads, rfl, passes_ellipsis ih marked read⟩
  · rw [selection, if_neg marked]
    refine (plain_field depth s).bind fun f r₁ h₁ => .ite (fun _ => ?_) fun _ => .done rfl
    refine .after fun _ => (gives_anyBetween (by decide) (by decide) fun r hr => ?_).bind
      fun xs r₂ h₂ => .done (spreadsAll_eq_flatMap xs)
    exact ih r (Nat.lt_trans hr h₁)
termination_by s.size

lemma gives_selections (s : Stream) : (selections s).Gives [] s Selection.spreadsAll := by
  have given : (selections s).Gives [] s (·.flatMap Selection.spreads) :=
    gives_anyBetween (by decide) (by decide) fun r _ => gives_selection 1 r
  rwa [← funext spreadsAll_eq_flatMap] at given

/-! ### Operations and fragments -/

lemma plain_variableDefinition (s : Stream) : Plain s s.variableDefinition := by
  refine (plain_description s).bind fun _ r₀ _ => ?_
  refine (plain_variableName r₀).bind fun _ r₁ _ => ?_
  refine (plain_expect r₁ (by decide)).bind fun _ r₂ _ => ?_
  refine (plain_typeRef r₂).bind fun _ r₃ _ => ?_
  refine (plain_defaultValue r₃).bind fun _ r₄ _ => ?_
  exact (plain_constantDirectives r₄).bind fun _ _ _ => .done rfl

lemma plain_operationKind (s : Stream) : Plain s s.operationKind := by
  refine (plain_name s).bind fun n r _ => ?_
  dsimp only
  split
  · exact .done rfl
  · exact .refused

lemma gives_operation (s : Stream) :
    s.operation.Gives [] s fun o => Selection.spreadsAll o.selections := by
  refine (plain_description s).bind fun _ r₀ _ => ?_
  refine (plain_operationKind r₀).bind fun _ r₁ _ => ?_
  -- the name of an operation may be missing
  dsimp only
  split
  case' h_1 => refine (plain_name r₁).bind fun _ r₂ _ => ?_
  all_goals
    refine (plain_maybeBetween (by decide) (by decide) plain_variableDefinition _).bind ?_
    intro _ r₃ _
    refine (plain_directives 0 false r₃).bind fun _ r₄ _ => ?_
    exact (gives_selections r₄).bind fun _ _ _ => .done rfl

lemma gives_shorthand (s : Stream) :
    s.shorthand.Gives [] s fun o => Selection.spreadsAll o.selections :=
  (gives_selections s).bind fun _ _ _ => .done rfl

lemma plain_fragmentName (s : Stream) : Plain s s.fragmentName :=
  .ite (fun _ => .refused) fun _ => plain_name s

lemma gives_fragment (s : Stream) :
    s.fragment.Gives [] s fun f => Selection.spreadsAll f.selections := by
  refine (plain_description s).bind fun _ r₀ _ => ?_
  refine (plain_expectWord r₀ _).bind fun _ r₁ _ => ?_
  refine (plain_fragmentName r₁).bind fun _ r₂ _ => ?_
  refine (plain_expectWord r₂ _).bind fun _ r₃ _ => ?_
  refine (plain_name r₃).bind fun _ r₄ _ => ?_
  refine (plain_directives 0 false r₄).bind fun _ r₅ _ => ?_
  exact (gives_selections r₅).bind fun _ _ _ => .done rfl

/-! ### Types of a schema -/

lemma plain_inputValue (s : Stream) : Plain s s.inputValue := by
  refine (plain_description s).bind fun _ r₀ _ => ?_
  refine (plain_name r₀).bind fun _ r₁ _ => ?_
  refine (plain_expect r₁ (by decide)).bind fun _ r₂ _ => ?_
  refine (plain_typeRef r₂).bind fun _ r₃ _ => ?_
  refine (plain_defaultValue r₃).bind fun _ r₄ _ => ?_
  exact (plain_constantDirectives r₄).bind fun _ _ _ => .done rfl

lemma plain_argumentDefinitions (s : Stream) : Plain s s.argumentDefinitions :=
  plain_maybeBetween (by decide) (by decide) plain_inputValue s

lemma plain_fieldDefinition (s : Stream) : Plain s s.fieldDefinition := by
  refine (plain_description s).bind fun _ r₀ _ => ?_
  refine (plain_name r₀).bind fun _ r₁ _ => ?_
  refine (plain_argumentDefinitions r₁).bind fun _ r₂ _ => ?_
  refine (plain_expect r₂ (by decide)).bind fun _ r₃ _ => ?_
  refine (plain_typeRef r₃).bind fun _ r₄ _ => ?_
  exact (plain_constantDirectives r₄).bind fun _ _ _ => .done rfl

lemma plain_enumValue (s : Stream) : Plain s s.enumValue := by
  refine (plain_description s).bind fun _ r₀ _ => ?_
  -- a reserved word ends the reading, and what is no reserved word goes on as a name does
  dsimp only
  split
  case' h_1 => refine .ite (fun _ => .after fun _ => ?_) fun _ => ?_
  all_goals
    refine (plain_name r₀).bind fun _ r₁ _ => ?_
    exact (plain_constantDirectives r₁).bind fun _ _ _ => .done rfl

lemma plain_interfaces (s : Stream) : Plain s s.interfaces := by
  refine (plain_acceptWord s _).bind fun _ r₁ _ => .ite (fun _ => ?_) fun _ => .done rfl
  exact (plain_delimited (by decide) plain_name r₁).bind fun _ _ _ => .done rfl

lemma plain_members (s : Stream) : Plain s s.members := by
  refine (plain_accept s (by decide)).bind fun _ r₁ _ => .ite (fun _ => ?_) fun _ => .done rfl
  exact (plain_delimited (by decide) plain_name r₁).bind fun _ _ _ => .done rfl

lemma plain_root (s : Stream) : Plain s s.root := by
  refine (plain_operationKind s).bind fun _ r₁ _ => ?_
  refine (plain_expect r₁ (by decide)).bind fun _ r₂ _ => ?_
  exact (plain_name r₂).bind fun _ _ _ => .done rfl

lemma plain_typeBody (word : TypeWord) (s : Stream) : Plain s (s.typeBody word) := by
  cases word with
  | scalar => exact (plain_constantDirectives s).bind fun _ _ _ => .done rfl
  | object | interface =>
    refine (plain_interfaces s).bind fun _ r₁ _ => ?_
    refine (plain_constantDirectives r₁).bind fun _ r₂ _ => ?_
    exact (plain_maybeBetween (by decide) (by decide) plain_fieldDefinition r₂).bind
      fun _ _ _ => .done rfl
  | union =>
    refine (plain_constantDirectives s).bind fun _ r₁ _ => ?_
    exact (plain_members r₁).bind fun _ _ _ => .done rfl
  | enum =>
    refine (plain_constantDirectives s).bind fun _ r₁ _ => ?_
    exact (plain_maybeBetween (by decide) (by decide) plain_enumValue r₁).bind
      fun _ _ _ => .done rfl
  | input =>
    refine (plain_constantDirectives s).bind fun _ r₁ _ => ?_
    exact (plain_maybeBetween (by decide) (by decide) plain_inputValue r₁).bind
      fun _ _ _ => .done rfl

lemma plain_typeDefinition (word : TypeWord) (s : Stream) : Plain s (s.typeDefinition word) := by
  refine (plain_description s).bind fun _ r₀ _ => ?_
  refine (plain_expectWord r₀ _).bind fun _ r₁ _ => ?_
  refine (plain_name r₁).bind fun _ r₂ _ => ?_
  exact (plain_typeBody word r₂).bind fun _ _ _ => .done rfl

lemma plain_schemaDefinition (s : Stream) : Plain s s.schemaDefinition := by
  refine (plain_description s).bind fun _ r₀ _ => ?_
  refine (plain_expectWord r₀ _).bind fun _ r₁ _ => ?_
  refine (plain_constantDirectives r₁).bind fun _ r₂ _ => ?_
  exact (plain_someBetween (by decide) (by decide) plain_root r₂).bind fun _ _ _ => .done rfl

lemma plain_directiveLocation (s : Stream) : Plain s s.directiveLocation :=
  (plain_name s).bind fun _ _ _ => .ite (fun _ => .done rfl) fun _ => .refused

lemma plain_directiveDefinition (s : Stream) : Plain s s.directiveDefinition := by
  refine (plain_description s).bind fun _ r₀ _ => ?_
  refine (plain_expectWord r₀ _).bind fun _ r₁ _ => ?_
  refine (plain_expect r₁ (by decide)).bind fun _ r₂ _ => ?_
  refine (plain_name r₂).bind fun _ r₃ _ => ?_
  refine (plain_argumentDefinitions r₃).bind fun _ r₄ _ => ?_
  refine (plain_constantDirectives r₄).bind fun _ r₅ _ => ?_
  refine (plain_acceptWord r₅ _).bind fun _ r₆ _ => ?_
  refine (plain_expectWord r₆ _).bind fun _ r₇ _ => ?_
  exact (plain_delimited (by decide) plain_directiveLocation r₇).bind fun _ _ _ => .done rfl

lemma plain_typeExtension (word : TypeWord) (s : Stream) : Plain s (s.typeExtension word) := by
  refine (plain_expectWord s _).bind fun _ r₀ _ => ?_
  refine (plain_expectWord r₀ _).bind fun _ r₁ _ => ?_
  refine (plain_name r₁).bind fun _ r₂ _ => ?_
  refine (plain_typeBody word r₂).bind fun _ _ _ => ?_
  exact .ite (fun _ => .refused) fun _ => .done rfl

lemma plain_schemaExtension (s : Stream) : Plain s s.schemaExtension := by
  refine (plain_expectWord s _).bind fun _ r₀ _ => ?_
  refine (plain_expectWord r₀ _).bind fun _ r₁ _ => ?_
  refine (plain_constantDirectives r₁).bind fun _ r₂ _ => ?_
  refine (plain_maybeBetween (by decide) (by decide) plain_root r₂).bind fun _ _ _ => ?_
  exact .ite (fun _ => .refused) fun _ => .done rfl

lemma plain_directiveExtension (s : Stream) : Plain s s.directiveExtension := by
  refine (plain_expectWord s _).bind fun _ r₀ _ => ?_
  refine (plain_expectWord r₀ _).bind fun _ r₁ _ => ?_
  refine (plain_expect r₁ (by decide)).bind fun _ r₂ _ => ?_
  refine (plain_name r₂).bind fun _ r₃ _ => ?_
  refine (plain_constantDirectives r₃).bind fun _ _ _ => ?_
  exact .ite (fun _ => .refused) fun _ => .done rfl

/-! ### Definitions -/

lemma gives_extension (s : Stream) :
    s.extension.Gives [] s fun d => Selection.spreadsAll d.selections := by
  refine .after fun _ => ?_
  split
  next n _ =>
    refine .ite (fun _ => (plain_schemaExtension s).bind fun _ _ _ => .done rfl) fun _ => ?_
    refine .ite (fun _ => (plain_directiveExtension s).bind fun _ _ _ => .done rfl) fun _ => ?_
    split
    next word _ => exact (plain_typeExtension word s).bind fun _ _ _ => .done rfl
    next => exact .refused
  next => exact .refused

/-- A definition spreads what the tokens taken for it spread. -/
lemma gives_definition (s : Stream) :
    s.definition.Gives [] s fun d => Selection.spreadsAll d.selections := by
  refine .ite (fun _ => (gives_shorthand s).bind fun _ _ _ => .done rfl) fun _ => .after fun _ => ?_
  refine .ite (fun _ => .refused) fun _ => ?_
  split
  next n _ =>
    split
    next word _ => exact (plain_typeDefinition word s).bind fun _ _ _ => .done rfl
    next =>
      refine .ite (fun _ => (plain_schemaDefinition s).bind fun _ _ _ => .done rfl) fun _ => ?_
      refine .ite (fun _ => (plain_directiveDefinition s).bind fun _ _ _ => .done rfl) fun _ => ?_
      refine .ite (fun _ => (gives_operation s).bind fun _ _ _ => .done rfl) fun _ => ?_
      refine .ite (fun _ => (gives_fragment s).bind fun _ _ _ => .done rfl) fun _ => ?_
      refine .ite (fun _ => .refused) fun _ => ?_
      exact .ite (fun _ => gives_extension s) fun _ => .refused
  next => exact .refused

end Stream

end OperationHooks
