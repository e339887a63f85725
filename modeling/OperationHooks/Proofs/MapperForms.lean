import OperationHooks.Proofs.Compilation.Failure
import OperationHooks.Proofs.Text.Blanks

/-!
# Texts that name mappers

A mapper is written as a symbol, or as a module and what is imported from it with a separator in
between, and there may be blanks around each part. Reading a text gives the mapper that is written
there, and what it gives can always be written again; a text in which no mapper is written is an
error.
-/

namespace OperationHooks

namespace Mapper

/-! ### What is written where -/

/-- A module that can stand in front of a separator. -/
def IsModule (module : String) : Prop := Trimmed module.toList ∧ '#' ∉ module.toList

/-- A mapper that can be written: no part of it is empty or padded, its module holds no separator,
and its symbol is not taken for something else. -/
def IsCanonical : Mapper → Prop
  | .local symbol => Trimmed symbol.toList ∧ '#' ∉ symbol.toList
  | .named module symbol =>
    IsModule module ∧ Trimmed symbol.toList ∧ symbol.toList ≠ defaultWord ∧
      ¬defaultAs <+: symbol.toList
  | .defaultExport module symbol => IsModule module ∧ Trimmed symbol.toList

/-- What stands behind the separator for a mapper. -/
inductive Names : List Char → Mapper → Prop
  | named {module symbol : String} : Names symbol.toList (.named module symbol)
  | default {module : String} : Names defaultWord (.defaultExport module defaultSymbol)
  | defaultAs {module symbol : String} {b : List Char} (blank : AllBlank b) :
    Names (defaultAs ++ b ++ symbol.toList) (.defaultExport module symbol)

/-- The module that a mapper is imported from. -/
def module? : Mapper → Option String
  | .local _ => none
  | .named m _ => some m
  | .defaultExport m _ => some m

/-- A text in which a mapper is written, blanks being around each part. -/
inductive Written : List Char → Mapper → Prop
  | local (symbol : String) {b b' : List Char} (before : AllBlank b) (behind : AllBlank b') :
    Written (b ++ symbol.toList ++ b') (.local symbol)
  | imported {m : Mapper} {module : String} {named b₁ b₂ b₃ b₄ : List Char}
      (origin : m.module? = some module) (names : Names named m)
      (blank₁ : AllBlank b₁) (blank₂ : AllBlank b₂) (blank₃ : AllBlank b₃) (blank₄ : AllBlank b₄) :
    Written ((b₁ ++ module.toList ++ b₂) ++ '#' :: (b₃ ++ named ++ b₄)) m

/-- A mapper in its shortest text. -/
def write : Mapper → String
  | .local symbol => symbol
  | .named module symbol => module ++ "#" ++ symbol
  | .defaultExport module symbol => module ++ "#default as " ++ symbol

/-! ### Symbols -/

/-- What introduces a name ends in a blank, so it is no symbol by itself. -/
lemma not_stops_defaultAs : ¬Stops isBlankChar defaultAs.reverse :=
  fun h => absurd (h ' ' rfl) (by decide)

lemma strip_drop_ne_nil {named : List Char} (trimmed : Trimmed named)
    (starts : defaultAs <+: named) : strip (named.drop defaultAs.length) ≠ [] := by
  obtain ⟨rest, rfl⟩ := starts
  rw [List.drop_left]
  intro empty
  have ends := trimmed.ends
  rw [List.reverse_append] at ends
  cases rest using List.reverseRecOn with
  | nil => exact not_stops_defaultAs ends
  | append_singleton rest c =>
    have blank := strip_eq_nil_iff.mp empty c (by simp)
    simp [Stops, blank] at ends

/-- What is made of a module and of what stands behind it can be written, and is written so. -/
lemma ofParts_spec {module named : List Char} (hm : Trimmed module) (first : '#' ∉ module)
    (hn : Trimmed named) :
    (ofParts module named).module? = some (String.ofList module) ∧
      (ofParts module named).IsCanonical ∧
      ∃ n b, AllBlank b ∧ named = n ++ b ∧ Names n (ofParts module named) := by
  have isModule : IsModule (String.ofList module) := by
    simpa [IsModule] using And.intro hm first
  rw [ofParts]
  split_ifs with default defaultAs
  · refine ⟨rfl, ⟨isModule, ?_⟩, named, [], allBlank_nil, by simp, default ▸ .default⟩
    refine ⟨by decide, ?_, ?_⟩
    · exact fun c hc => by cases hc; decide
    · exact fun c hc => by cases hc; decide
  · have starts := List.isPrefixOf_iff_prefix.mp defaultAs
    have nonempty := strip_drop_ne_nil hn starts
    obtain ⟨b, b', hb, hb', around⟩ := exists_blanks_around (named.drop Mapper.defaultAs.length)
    refine ⟨rfl, ⟨isModule, by simpa using trimmed_strip nonempty⟩, _, b', hb', ?_, .defaultAs hb⟩
    obtain ⟨rest, rfl⟩ := starts
    rw [List.drop_left] at around ⊢
    rw [String.toList_ofList]
    simpa using around
  · refine ⟨rfl, ⟨isModule, by simpa using hn, by simpa using default, ?_⟩, _, [], allBlank_nil,
      by simp, .named⟩
    simpa using defaultAs

/-- What stands behind a module for a mapper makes the mapper again. -/
lemma ofParts_of_names {m : Mapper} {module : String} {named : List Char}
    (origin : m.module? = some module) (names : Names named m) (canonical : m.IsCanonical) :
    Trimmed named ∧ ofParts module.toList named = m := by
  cases names with
  | named =>
    obtain ⟨-, trimmed, notDefault, notAs⟩ := canonical
    cases origin
    refine ⟨trimmed, ?_⟩
    rw [ofParts, if_neg notDefault, if_neg (by simpa using notAs), String.ofList_toList,
      String.ofList_toList]
  | default =>
    cases origin
    refine ⟨⟨by decide, ?_, ?_⟩, ?_⟩
    · exact fun c hc => by cases hc; decide
    · exact fun c hc => by cases hc; decide
    · rw [ofParts, if_pos rfl, String.ofList_toList]
  | @defaultAs _ symbol b blank =>
    obtain ⟨-, trimmed⟩ := canonical
    cases origin
    have longer : defaultAs ++ b ++ symbol.toList ≠ defaultWord := by
      intro same
      have length := congrArg List.length same
      have front : defaultAs.length = defaultWord.length + 4 := by decide
      rw [List.length_append, List.length_append] at length
      omega
    refine ⟨⟨by simp [trimmed.nonempty], ?_, ?_⟩, ?_⟩
    · rw [List.append_assoc, stops_append_of_ne_nil (by decide)]
      exact fun c hc => by cases hc; decide
    · rw [List.reverse_append,
        stops_append_of_ne_nil (List.reverse_ne_nil_iff.mpr trimmed.nonempty)]
      exact trimmed.ends
    · have rest : strip (b ++ symbol.toList) = symbol.toList := by
        simpa using strip_around blank trimmed allBlank_nil
      rw [ofParts, if_neg longer, if_pos (by simp), List.append_assoc, List.drop_left, rest,
        String.ofList_toList, String.ofList_toList]

/-! ### Texts -/

/-- A mapper that is written in a text is read from it. -/
lemma read_of_written {text : String} {m : Mapper} (canonical : m.IsCanonical)
    (written : Written text.toList m) : read text = .ok m := by
  generalize cs_eq : text.toList = cs at written
  cases written with
  | «local» _ before behind =>
    obtain ⟨trimmed, plain⟩ := canonical
    rw [read, cs_eq, strip_around before trimmed behind, if_neg trimmed.nonempty,
      if_pos (by simpa using plain), String.ofList_toList]
  | @imported _ module named b₁ b₂ b₃ b₄ origin names blank₁ blank₂ blank₃ blank₄ =>
    obtain ⟨trimmedNamed, made⟩ := ofParts_of_names origin names canonical
    obtain ⟨trimmed, plain⟩ : IsModule module := by
      cases m with
      | «local» => cases origin
      | named => cases origin; exact canonical.1
      | defaultExport => cases origin; exact canonical.1
    have parts : strip text.toList =
        (module.toList ++ b₂) ++ '#' :: (b₃ ++ named) := by
      have inner := trimmed.append trimmedNamed (b₂ ++ '#' :: b₃)
      have around := strip_around blank₁ inner blank₄
      rw [cs_eq]
      simpa using around
    have first : '#' ∉ module.toList ++ b₂ := by
      rw [List.mem_append, not_or]
      exact ⟨plain, fun h => absurd (blank₂ '#' h) (by decide)⟩
    have module_eq : strip (module.toList ++ b₂) = module.toList := by
      simpa using strip_around allBlank_nil trimmed blank₂
    have named_eq : strip (b₃ ++ named) = named := by
      simpa using strip_around blank₃ trimmedNamed allBlank_nil
    rw [read_separated parts first, module_eq, named_eq,
      if_neg (not_or.mpr ⟨trimmed.nonempty, trimmedNamed.nonempty⟩), made]

/-- A mapper that is read from a text can be written, and is written there. -/
lemma written_of_read {text : String} {m : Mapper} (named : read text = .ok m) :
    m.IsCanonical ∧ Written text.toList m := by
  obtain ⟨b, b', hb, hb', around⟩ := exists_blanks_around text.toList
  by_cases blank : strip text.toList = []
  · rw [read, if_pos blank] at named
    cases named
  by_cases separated : '#' ∈ strip text.toList
  · obtain ⟨before, behind, parts, first⟩ := List.eq_append_cons_of_mem separated
    rw [read_separated parts first] at named
    split_ifs at named with missing
    obtain ⟨hasModule, hasSymbol⟩ := not_or.mp missing
    obtain ⟨b₁, b₂, hb₁, hb₂, module_eq⟩ := exists_blanks_around before
    obtain ⟨b₃, b₄, hb₃, hb₄, symbol_eq⟩ := exists_blanks_around behind
    have plain : '#' ∉ strip before := by
      intro h
      rw [module_eq] at first
      exact first (by simp [h])
    obtain ⟨origin, canonical, n, b₅, hb₅, split, names⟩ :=
      ofParts_spec (trimmed_strip hasModule) plain (trimmed_strip hasSymbol)
    cases named
    refine ⟨canonical, ?_⟩
    have whole : text.toList = (b ++ b₁ ++ (String.ofList (strip before)).toList ++ b₂) ++
        '#' :: (b₃ ++ n ++ (b₅ ++ b₄ ++ b')) := by
      conv_lhs => rw [around, parts, module_eq, symbol_eq, split]
      simp
    rw [whole]
    exact .imported origin names (hb.append hb₁) hb₂ hb₃ ((hb₅.append hb₄).append hb')
  · rw [read, if_neg blank, if_pos (by simpa using separated)] at named
    cases named
    refine ⟨by simpa [IsCanonical] using ⟨trimmed_strip blank, separated⟩, ?_⟩
    have written := Written.local (String.ofList (strip text.toList)) hb hb'
    rwa [String.toList_ofList, ← around] at written

lemma written_write (m : Mapper) : Written m.write.toList m := by
  cases m with
  | «local» symbol => simpa [write] using Written.local symbol allBlank_nil allBlank_nil
  | named module symbol =>
    simpa [write] using Written.imported (m := .named module symbol) rfl .named allBlank_nil
      allBlank_nil allBlank_nil allBlank_nil
  | defaultExport module symbol =>
    have opening : "#default as ".toList = '#' :: defaultAs := by decide
    simpa [write, opening] using Written.imported (m := .defaultExport module symbol) rfl
      (.defaultAs allBlank_nil) allBlank_nil allBlank_nil allBlank_nil allBlank_nil

/-- Reading a text gives exactly the mapper that is written there, whatever blanks stand around its
parts, and a text in which none is written is an error. The mappers that can be read are those that
can be written, and they are read from what is written of them. -/
theorem reading_inverts_writing (text : String) :
    (∀ m, read text = .ok m ↔ m.IsCanonical ∧ Written text.toList m) ∧
      ((∃ e, read text = .error e) ↔ ∀ m, m.IsCanonical → ¬Written text.toList m) ∧
      ∀ m, m.IsCanonical ↔ read m.write = .ok m := by
  have accepted (t : String) (m : Mapper) :
      read t = .ok m ↔ m.IsCanonical ∧ Written t.toList m :=
    ⟨written_of_read, fun h => read_of_written h.1 h.2⟩
  refine ⟨accepted text, ?_, fun m => ?_⟩
  · constructor
    · rintro ⟨e, failed⟩ m canonical written
      rw [read_of_written canonical written] at failed
      cases failed
    · intro unwritten
      cases named : read text with
      | error e => exact ⟨e, rfl⟩
      | ok m =>
        obtain ⟨canonical, written⟩ := written_of_read named
        exact absurd written (unwritten m canonical)
  · rw [accepted, and_iff_left (written_write m)]

example : read "\t./api # default as \u2003load #1\n" = .ok (.defaultExport "./api" "load #1") := by
  decide

example : read "./api#default as " = .ok (.named "./api" "default as") := by decide

end Mapper

end OperationHooks
