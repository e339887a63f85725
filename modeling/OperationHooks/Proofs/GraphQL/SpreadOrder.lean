import OperationHooks.Proofs.FirstOccurrences
import OperationHooks.Proofs.GraphQL.Readers

/-!
# Which fragments are spread

The fragments that a definition spreads are looked for in its selections, at any depth, and are
listed by first occurrence. The order is that of the source: the tokens of a document fall into
one part for each definition, and the names behind an ellipsis in that part come in the order in
which they are listed.
-/

namespace OperationHooks

/-! ### Spreads at any depth -/

/-- A fragment is spread in a selection: by the selection itself, under a field or in an inline
fragment, at whatever depth. -/
inductive Selection.HasSpread : String → Selection → Prop where
  | spread {n : Name} {ds : List Directive} : HasSpread n.text (.spread n ds)
  | within {name : String} {f : Field} {xs : List Selection} {x : Selection} (hx : x ∈ xs)
    (h : x.HasSpread name) : HasSpread name (.within f xs)
  | inline {name : String} {on? : Option Name} {ds : List Directive} {xs : List Selection}
    {x : Selection} (hx : x ∈ xs) (h : x.HasSpread name) : HasSpread name (.inline on? ds xs)

mutual

lemma hasSpread_of_mem_spreads {name : String} :
    ∀ x : Selection, name ∈ x.spreads → x.HasSpread name
  | .leaf _, h => by cases h
  | .within _ xs, h => by
    obtain ⟨x, hx, found⟩ := exists_hasSpread_of_mem xs h
    exact .within hx found
  | .spread n _, h => by
    obtain rfl := List.mem_singleton.mp h
    exact .spread
  | .inline _ _ xs, h => by
    obtain ⟨x, hx, found⟩ := exists_hasSpread_of_mem xs h
    exact .inline hx found

lemma exists_hasSpread_of_mem {name : String} :
    ∀ xs : List Selection, name ∈ Selection.spreadsAll xs → ∃ x ∈ xs, x.HasSpread name
  | [], h => by cases h
  | x :: xs, h => by
    rcases List.mem_append.mp h with h | h
    · exact ⟨x, List.mem_cons_self, hasSpread_of_mem_spreads x h⟩
    · obtain ⟨y, hy, found⟩ := exists_hasSpread_of_mem xs h
      exact ⟨y, List.mem_cons_of_mem x hy, found⟩

end

lemma mem_spreadsAll_of_mem {name : String} {x : Selection} {xs : List Selection} (hx : x ∈ xs)
    (h : name ∈ x.spreads) : name ∈ Selection.spreadsAll xs := by
  rw [Stream.spreadsAll_eq_flatMap]
  exact List.mem_flatMap.mpr ⟨x, hx, h⟩

lemma Selection.HasSpread.mem_spreads {name : String} {x : Selection} (h : x.HasSpread name) :
    name ∈ x.spreads := by
  induction h with
  | spread => exact List.mem_singleton_self _
  | within hx _ ih => exact mem_spreadsAll_of_mem hx ih
  | inline hx _ ih => exact mem_spreadsAll_of_mem hx ih

/-- No nesting hides a spread, and nothing else is taken for one. -/
lemma mem_spreadsAll_iff {name : String} {xs : List Selection} :
    name ∈ Selection.spreadsAll xs ↔ ∃ x ∈ xs, x.HasSpread name := by
  constructor
  · exact exists_hasSpread_of_mem xs
  · rintro ⟨x, hx, found⟩
    exact mem_spreadsAll_of_mem hx found.mem_spreads

lemma Definition.spreads_eq (d : Definition) :
    d.spreads = (Selection.spreadsAll d.selections).eraseDups := by
  cases d <;> rfl

/-! ### The parts of a document -/

/-- A definition is what is read of these tokens, where they stand in front of a stream. -/
def Definition.ReadOf (d : Definition) (ts : List Token) : Prop :=
  ∃ s r : Stream, s.Reads ts r ∧ ∃ h, s.definition = .ok (d, ⟨r, h⟩)

lemma Definition.ReadOf.namesSpread_eq {d : Definition} {ts : List Token} (h : d.ReadOf ts) :
    namesSpread ts = Selection.spreadsAll d.selections := by
  obtain ⟨s, r, taken, _, read⟩ := h
  obtain ⟨ts', taken', met⟩ := (Stream.gives_definition s).passes read
  have same : ts = ts' := taken.unique taken'
  have alone := met []
  rw [List.append_nil, namesSpread, List.append_nil] at alone
  rw [same, alone]

lemma exists_parts {s : Stream} {document : Document} (sound : ∀ e, s ≠ .stuck e)
    (read : s.definitions = .ok document) :
    ∃ parts, s.tokens? = some parts.flatten ∧ List.Forall₂ Definition.ReadOf document parts := by
  rw [Stream.definitions] at read
  obtain ⟨⟨d, r, h⟩, first, read⟩ := Reading.exists_of_bind read
  obtain ⟨ts, taken, -⟩ := (Stream.gives_definition s).passes first
  have part : d.ReadOf ts := ⟨s, r, taken, h, first⟩
  have sound_r := taken.ne_stuck sound
  dsimp only at read
  split at read
  next last =>
    cases read
    cases r with
    | done => exact ⟨[ts], by simp [taken.tokens?_eq, Stream.tokens?], .cons part .nil⟩
    | stuck e => exact absurd rfl (sound_r e)
    | more t n r => cases last
  next =>
    obtain ⟨ds, others, read⟩ := Reading.exists_of_bind read
    cases read
    obtain ⟨parts, tokens, behind⟩ := exists_parts sound_r others
    exact ⟨ts :: parts, by simp [taken.tokens?_eq, tokens], .cons part behind⟩
termination_by s.size

/-! ### Spreads in the order of the source -/

lemma Definition.ReadOf.firstOccurrences {d : Definition} {ts : List Token} (h : d.ReadOf ts) :
    FirstOccurrences (namesSpread ts) d.spreads := by
  rw [h.namesSpread_eq, d.spreads_eq]
  exact firstOccurrences_eraseDups _

/-- The fragments that a definition spreads are those spread in its selections at any depth, each
listed once. Where definitions are read from a source, which falls into one part for each of them,
they are listed as they first stand behind an ellipsis in that part. -/
theorem spreads_in_order :
    (∀ d : Definition, d.spreads.Nodup ∧
      ∀ name, name ∈ d.spreads ↔ ∃ x ∈ d.selections, x.HasSpread name) ∧
    ∀ source document, Document.read source = .ok document →
      ∃ parts : List (List Token), tokens? source.toList = some parts.flatten ∧
        List.Forall₂ (fun d ts => d.ReadOf ts ∧ FirstOccurrences (namesSpread ts) d.spreads)
          document parts := by
  refine ⟨fun d => ⟨?_, fun name => ?_⟩, fun source document read => ?_⟩
  · rw [d.spreads_eq]
    exact nodup_eraseDups _
  · rw [d.spreads_eq, List.mem_eraseDups]
    exact mem_spreadsAll_iff
  · obtain ⟨_, checked, read⟩ := Reading.exists_of_bind read
    have sound (e : SourceError) : Stream.ofChars source.toList ≠ .stuck e := by
      intro stuck
      rw [stuck] at checked
      cases checked
    obtain ⟨parts, tokens, behind⟩ := exists_parts sound read
    exact ⟨parts, tokens, behind.imp fun d ts h => ⟨h, h.firstOccurrences⟩⟩

/-- An operation with spreads side by side, under fields and in inline fragments with and without
a type condition, some of them repeated, and a fragment that spreads another. -/
def nestedSpreads : String :=
  "query Q \x7b a \x7b ...B ... on T \x7b ...A b \x7b ... @x \x7b ...B ...C \x7d \x7d \x7d \x7d " ++
    "... \x7b ...A \x7d ...C \x7d fragment B on T \x7b on: c ...A \x7d"

set_option maxRecDepth 20000 in
theorem spreads_in_order_nested :
    ∃ document, Document.read nestedSpreads = .ok document ∧
      document.map (·.spreads) = [["B", "A", "C"], ["A"]] ∧
      ∃ parts : List (List Token), tokens? nestedSpreads.toList = some parts.flatten ∧
        List.Forall₂ (fun d ts => d.ReadOf ts ∧ FirstOccurrences (namesSpread ts) d.spreads)
          document parts := by
  have evaluated : (Document.read nestedSpreads).toOption.map
      (fun document => document.map (·.spreads)) = some [["B", "A", "C"], ["A"]] := by
    decide +kernel
  cases read : Document.read nestedSpreads with
  | error e =>
    rw [read] at evaluated
    cases evaluated
  | ok document =>
    rw [read] at evaluated
    exact ⟨document, rfl, Option.some.inj evaluated, spreads_in_order.2 _ _ read⟩

end OperationHooks
