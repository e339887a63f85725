import Mathlib.Data.List.TakeWhile
import OperationHooks.CommandLine.Fetching
import OperationHooks.Proofs.Json.Limits
import OperationHooks.Proofs.Json.Members
import OperationHooks.Proofs.Json.Reading

/-!
# Request options from the command line

Items are cut at their first equals sign. The keys stand in the order of their first occurrences,
and each has the value of its last one: what the text behind the sign spells as JSON, or else the
text. An item without a key is refused. The exception to all this is an integer that is too long:
where one is met before an item without a key, reading ends with a fault of its own.
-/

namespace OperationHooks

namespace CommandLine

/-! ### Items -/

/-- An item without a key: it has no equals sign, or nothing in front of it. -/
def IsKeyless (item : String) : Prop :=
  '=' ∉ item.toList ∨ item.toList.head? = some '='

instance (item : String) : Decidable (IsKeyless item) :=
  inferInstanceAs (Decidable ('=' ∉ item.toList ∨ item.toList.head? = some '='))

/-- The text in front of the first equals sign of an item. -/
def itemKey (item : String) : String := String.ofList (item.toList.takeWhile (· != '='))

/-- The text behind the first equals sign of an item. -/
def itemText (item : String) : String := String.ofList (item.toList.dropWhile (· != '=')).tail

variable {item key : String}

lemma splitItem_of_keyless (h : IsKeyless item) : splitItem item = none := by
  rw [splitItem]
  rcases h with unsigned | front
  · have nothing : item.toList.dropWhile (· != '=') = [] := by
      rw [List.dropWhile_eq_nil_iff]
      intro c hc
      simpa using ne_of_mem_of_not_mem hc unsigned
    simp only [nothing]
  · obtain ⟨rest, chars⟩ := List.head?_eq_some_iff.mp front
    simp [chars]

lemma splitItem_of_keyed (h : ¬IsKeyless item) :
    splitItem item = some (itemKey item, itemText item) := by
  rw [IsKeyless, not_or, not_not] at h
  obtain ⟨signed, front⟩ := h
  have behind : item.toList.dropWhile (· != '=') ≠ [] := by
    rw [ne_eq, List.dropWhile_eq_nil_iff]
    intro all
    simpa using all '=' signed
  have before : item.toList.takeWhile (· != '=') ≠ [] := by
    cases chars : item.toList with
    | nil => simp [chars] at signed
    | cons c cs =>
      have other : c ≠ '=' := by simpa [chars] using front
      simp [other]
  obtain ⟨c, rest, chars⟩ := List.exists_cons_of_ne_nil behind
  simp only [splitItem, chars, if_neg before, itemKey, itemText, List.tail_cons]

/-- An item with a key is cut where its key ends. -/
lemma item_spec (nonempty : key ≠ "") (unsigned : '=' ∉ key.toList) (raw : String) :
    ¬IsKeyless (key ++ "=" ++ raw) ∧ itemKey (key ++ "=" ++ raw) = key ∧
      itemText (key ++ "=" ++ raw) = raw := by
  have chars : (key ++ "=" ++ raw).toList = key.toList ++ '=' :: raw.toList := by simp
  have free : ∀ c ∈ key.toList, (c != '=') = true := by
    intro c hc
    simpa using ne_of_mem_of_not_mem hc unsigned
  have stops : Stops (· != '=') ('=' :: raw.toList) := stops_cons.mpr (by decide)
  obtain ⟨before, behind⟩ := takeWhile_append_stops free stops
  refine ⟨?_, ?_, ?_⟩
  · rw [IsKeyless, chars, not_or, not_not]
    obtain ⟨c, cs, hc⟩ := List.exists_cons_of_ne_nil (mt String.toList_eq_nil_iff.mp nonempty)
    have front : c ≠ '=' := ne_of_mem_of_not_mem (hc ▸ List.mem_cons_self) unsigned
    refine ⟨by simp, ?_⟩
    simpa [hc] using front
  · rw [itemKey, chars, before, String.ofList_toList]
  · rw [itemText, chars, behind, List.tail_cons, String.ofList_toList]

/-! ### Values -/

/-- The value that a text stands for: what it spells as JSON, or else the text itself. -/
def standsFor (raw : String) : Json := (Json.read? raw).getD (.str raw)

/-- An item whose text, read as JSON, holds an integer that is too long. -/
def IsTooLong (item : String) : Prop :=
  ∃ digits, Json.read (some longestInteger) (itemText item) = .error (.longInteger digits)

/-- Without an integer that is too long a text has the value that it stands for. -/
lemma itemValue_of_not_tooLong (h : ¬IsTooLong item) :
    itemValue (itemText item) = .ok (standsFor (itemText item)) := by
  have same := (Json.read_upTo (some longestInteger) (itemText item)).resolve_left h
  rw [itemValue, standsFor, Json.read?, same]
  cases read : Json.read none (itemText item) with
  | ok v => rfl
  | error e =>
    cases e with
    | notJson => rfl
    | longInteger digits => exact absurd ⟨digits, same.trans read⟩ h

/-- What printing makes of a value stands for the value. -/
lemma standsFor_text {v : Json} (h : v.FloatFree) : standsFor v.text = v := by
  rw [standsFor, Json.read?, Json.read_text h v.fits_none]
  rfl

/-- A value without floats can be given behind any key, if its integers are not too long. -/
lemma text_spec (nonempty : key ≠ "") (unsigned : '=' ∉ key.toList) {v : Json}
    (floatFree : v.FloatFree) (fits : v.Fits (some longestInteger)) :
    itemKey (key ++ "=" ++ v.text) = key ∧ standsFor (itemText (key ++ "=" ++ v.text)) = v ∧
      ¬IsTooLong (key ++ "=" ++ v.text) := by
  obtain ⟨-, name, text⟩ := item_spec nonempty unsigned v.text
  refine ⟨name, by rw [text, standsFor_text floatFree], ?_⟩
  rintro ⟨digits, long⟩
  rw [text, Json.read_text floatFree fits] at long
  cases long

/-- The integers in a value are not too long, or it has none. -/
lemma itemValue_fits {raw : String} {v : Json} (h : itemValue raw = .ok v) :
    v.Fits (some longestInteger) := by
  rw [itemValue] at h
  split at h
  · next value spelled =>
    cases h
    exact Json.read_fits spelled
  · cases h
    trivial
  · cases h

/-! ### One item after the other -/

section Steps

variable (params : List (String × Json)) (rest : List String)

lemma go_keyless (h : IsKeyless item) :
    fetchParams.go params (item :: rest) = .error (.misused (.fetchParam item)) := by
  rw [fetchParams.go, splitItem_of_keyless h]

lemma go_tooLong (h : ¬IsKeyless item) {digits : Nat}
    (long : Json.read (some longestInteger) (itemText item) = .error (.longInteger digits)) :
    fetchParams.go params (item :: rest) = .error (.longInteger digits) := by
  rw [fetchParams.go, splitItem_of_keyed h]
  simp only [itemValue, long]

lemma go_keyed (h : ¬IsKeyless item) (short : ¬IsTooLong item) :
    fetchParams.go params (item :: rest) =
      fetchParams.go (insertMember (itemKey item) (standsFor (itemText item)) params) rest := by
  rw [fetchParams.go, splitItem_of_keyed h]
  simp only [itemValue_of_not_tooLong short]

end Steps

lemma go_fit {items : List String} {params params' : List (String × Json)}
    (fit : Json.MembersFit (some longestInteger) params)
    (h : fetchParams.go params items = .ok params') :
    Json.MembersFit (some longestInteger) params' := by
  induction items generalizing params with
  | nil =>
    cases h
    exact fit
  | cons item items ih =>
    rw [fetchParams.go] at h
    split at h
    · cases h
    next key raw cut =>
    split at h
    · cases h
    next value read =>
    refine ih (Json.membersFit_iff.mpr fun m hm => ?_) h
    rcases mem_of_mem_insertMember hm with rfl | hm
    · exact itemValue_fits read
    · exact Json.membersFit_iff.mp fit m hm

/-- Request options that were read can be written. -/
lemma fetchParams_fit {items : List String} {params : List (String × Json)}
    (h : fetchParams items = .ok params) : Json.MembersFit (some longestInteger) params := by
  have none : Json.MembersFit (some longestInteger) [] := trivial
  exact go_fit none h

/-- An integer that is too long is met before an item without a key. -/
inductive MeetsLongInteger : List String → Prop where
  | here {item : String} {rest : List String} (keyed : ¬IsKeyless item) (long : IsTooLong item) :
    MeetsLongInteger (item :: rest)
  | later {item : String} {rest : List String} (keyed : ¬IsKeyless item)
    (h : MeetsLongInteger rest) : MeetsLongInteger (item :: rest)

lemma go_eq_longInteger {items : List String} (h : MeetsLongInteger items)
    (params : List (String × Json)) :
    ∃ digits, fetchParams.go params items = .error (.longInteger digits) := by
  induction h generalizing params with
  | here keyed long =>
    obtain ⟨digits, read⟩ := long
    exact ⟨digits, go_tooLong _ _ keyed read⟩
  | @later item rest keyed h ih =>
    by_cases long : IsTooLong item
    · obtain ⟨digits, read⟩ := long
      exact ⟨digits, go_tooLong _ _ keyed read⟩
    · rw [go_keyed _ _ keyed long]
      exact ih _

/-- An item without a key is refused where no long integer is met before. -/
lemma go_eq_misused {items : List String} (h : ¬MeetsLongInteger items)
    (keyless : ∃ item ∈ items, IsKeyless item) (params : List (String × Json)) :
    ∃ item, fetchParams.go params items = .error (.misused (.fetchParam item)) := by
  induction items generalizing params with
  | nil => simp at keyless
  | cons item rest ih =>
    by_cases here : IsKeyless item
    · exact ⟨item, go_keyless _ _ here⟩
    · have short : ¬IsTooLong item := fun long => h (.here here long)
      rw [go_keyed _ _ here short]
      refine ih (fun later => h (.later here later)) ?_ _
      obtain ⟨i, hi, keyless⟩ := keyless
      rcases List.mem_cons.mp hi with rfl | hi
      · exact absurd keyless here
      · exact ⟨i, hi, keyless⟩

lemma go_eq_ok {items : List String} (h : ¬MeetsLongInteger items)
    (keyed : ∀ item ∈ items, ¬IsKeyless item) (params : List (String × Json)) :
    fetchParams.go params items =
      .ok ((items.map fun item => (itemKey item, standsFor (itemText item))).foldl
        (fun ms (k, v) => insertMember k v ms) params) := by
  induction items generalizing params with
  | nil => rfl
  | cons item rest ih =>
    have here := keyed item List.mem_cons_self
    have short : ¬IsTooLong item := fun long => h (.here here long)
    rw [go_keyed _ _ here short, ih (fun later => h (.later here later))
      fun i hi => keyed i (List.mem_cons_of_mem _ hi)]
    rfl

lemma keyless_or_keyed (items : List String) :
    (∃ item ∈ items, IsKeyless item) ∨ ∀ item ∈ items, ¬IsKeyless item := by
  rw [or_iff_not_imp_left, not_exists]
  exact fun h item hi keyless => h item ⟨hi, keyless⟩

/-! ### All items -/

variable {items : List String}

lemma fetchParams_eq_longInteger_iff :
    (∃ digits, fetchParams items = .error (.longInteger digits)) ↔ MeetsLongInteger items := by
  refine ⟨fun ⟨digits, long⟩ => ?_, fun meets => go_eq_longInteger meets []⟩
  by_contra short
  rcases keyless_or_keyed items with keyless | keyed
  · obtain ⟨item, refused⟩ := go_eq_misused short keyless []
    rw [fetchParams, refused] at long
    cases long
  · rw [fetchParams, go_eq_ok short keyed] at long
    cases long

lemma fetchParams_eq_misused_iff (short : ¬MeetsLongInteger items) :
    (∃ item, fetchParams items = .error (.misused (.fetchParam item))) ↔
      ∃ item ∈ items, IsKeyless item := by
  refine ⟨fun ⟨item, refused⟩ => ?_, fun keyless => go_eq_misused short keyless []⟩
  refine (keyless_or_keyed items).resolve_right fun keyed => ?_
  rw [fetchParams, go_eq_ok short keyed] at refused
  cases refused

lemma fetchParams_eq_ok (short : ¬MeetsLongInteger items)
    (keyed : ∀ item ∈ items, ¬IsKeyless item) :
    fetchParams items = .ok (collectMembers
      (items.map fun item => (itemKey item, standsFor (itemText item)))) :=
  go_eq_ok short keyed []

/-- Request options are read unless an integer that is too long is met before an item without a
key. Then items are refused exactly if one of them has no key, and otherwise the keys stand in the
order of their first occurrences, each with what the text of its last one stands for. An item made
of a key and the text of a value without floats gives the key this value. -/
theorem request_options_read (items : List String) :
    ((∃ digits, fetchParams items = .error (.longInteger digits)) ↔ MeetsLongInteger items) ∧
    (¬MeetsLongInteger items →
      ((∃ item, fetchParams items = .error (.misused (.fetchParam item))) ↔
        ∃ item ∈ items, IsKeyless item) ∧
      ((∀ item ∈ items, ¬IsKeyless item) →
        ∃ params, fetchParams items = .ok params ∧
          params.map (·.1) = (items.map itemKey).eraseDups ∧
          ∀ before item after, items = before ++ item :: after →
            itemKey item ∉ after.map itemKey →
              lookupMember (itemKey item) params = some (standsFor (itemText item)))) ∧
    ∀ key v, key ≠ "" → '=' ∉ key.toList → v.FloatFree → v.Fits (some longestInteger) →
      itemKey (key ++ "=" ++ v.text) = key ∧ standsFor (itemText (key ++ "=" ++ v.text)) = v ∧
        ¬IsTooLong (key ++ "=" ++ v.text) ∧
        fetchParams [key ++ "=" ++ v.text] = .ok [(key, v)] := by
  refine ⟨fetchParams_eq_longInteger_iff, fun short => ⟨fetchParams_eq_misused_iff short,
    fun keyed => ⟨_, fetchParams_eq_ok short keyed, ?_, ?_⟩⟩, ?_⟩
  · rw [keys_collectMembers, List.map_map]
    rfl
  · rintro before item after rfl last
    rw [List.map_append, List.map_cons]
    apply lookupMember_collectMembers
    rwa [List.map_map]
  · intro key v nonempty unsigned floatFree fits
    obtain ⟨name, value, short⟩ := text_spec nonempty unsigned floatFree fits
    refine ⟨name, value, short, ?_⟩
    rw [fetchParams, go_keyed _ _ (item_spec nonempty unsigned _).1 short, name, value]
    rfl

/-- A key given twice, the second time with a value full of signs, and a text that is no JSON. -/
theorem request_options_read_twice :
    let v : Json := .obj [("=", .arr [.str "=\"", .int (-1), .null])]
    let items := ["a=b=c", "d=cors", "a" ++ "=" ++ v.text]
    ¬MeetsLongInteger items ∧ (∀ item ∈ items, ¬IsKeyless item) ∧
      ("a" ≠ "" ∧ '=' ∉ "a".toList ∧ v.FloatFree ∧ v.Fits (some longestInteger)) ∧
      ∃ params, fetchParams items = .ok params ∧ params.map (·.1) = ["a", "d"] ∧
        lookupMember "a" params = some v ∧ lookupMember "d" params = some (.str "cors") := by
  intro v items
  have plain : "a" ≠ "" ∧ '=' ∉ "a".toList := by decide
  have floatFree : v.FloatFree := ⟨by simp, ⟨trivial, trivial, trivial, trivial⟩, trivial⟩
  have fits : v.Fits (some longestInteger) := by
    refine ⟨⟨trivial, ?_, trivial, trivial⟩, trivial⟩
    rintro longest ⟨⟩
    decide
  obtain ⟨-, options, texts⟩ := request_options_read items
  obtain ⟨name, value, short, -⟩ := texts "a" v plain.1 plain.2 floatFree fits
  have noJson (limit : Option Nat) : Json.read limit "cors" = .error .notJson ∧
      Json.read limit "b=c" = .error .notJson := by
    constructor
    · exact Json.read_of_not_startsValue rfl rfl rfl (by decide)
    · exact Json.read_of_not_startsValue rfl rfl rfl (by decide)
  have first : itemKey "a=b=c" = "a" ∧ itemText "a=b=c" = "b=c" := by decide
  have second : itemKey "d=cors" = "d" ∧ itemText "d=cors" = "cors" := by decide
  have notLong : ¬MeetsLongInteger items := by
    intro meets
    change MeetsLongInteger ["a=b=c", "d=cors", "a" ++ "=" ++ v.text] at meets
    rcases meets with ⟨-, digits, long⟩ | ⟨-, ⟨-, digits, long⟩ | ⟨-, ⟨-, long⟩ | ⟨-, ⟨⟩⟩⟩⟩
    · rw [first.2, (noJson _).2] at long
      cases long
    · rw [second.2, (noJson _).1] at long
      cases long
    · exact short long
  have keyed : ∀ item ∈ items, ¬IsKeyless item := by
    intro item hi
    simp only [items, List.mem_cons, List.not_mem_nil, or_false] at hi
    rcases hi with rfl | rfl | rfl
    · decide
    · decide
    · exact (item_spec plain.1 plain.2 _).1
  obtain ⟨params, read, keys, last⟩ := (options notLong).2 keyed
  refine ⟨notLong, keyed, ⟨plain.1, plain.2, floatFree, fits⟩, params, read, ?_, ?_, ?_⟩
  · rw [keys]
    simp only [items, List.map_cons, List.map_nil, first.1, second.1, name]
    decide
  · have given := last ["a=b=c", "d=cors"] _ [] rfl (by simp)
    rwa [name, value] at given
  · have other : itemKey "d=cors" ∉ ["a" ++ "=" ++ v.text].map itemKey := by
      rw [List.map_cons, List.map_nil, second.1, name]
      decide
    have given := last ["a=b=c"] _ _ rfl other
    rw [second.1, second.2, standsFor, Json.read?, (noJson _).1] at given
    exact given

/-- An integer of too many digits hides that an item has no key. -/
theorem long_integer_uncaught :
    let items := ["a" ++ "=" ++ String.ofList (List.replicate 4301 '1'), "b"]
    (∃ item ∈ items, IsKeyless item) ∧ fetchParams items = .error (.longInteger 4301) := by
  intro items
  have plain : "a" ≠ "" ∧ '=' ∉ "a".toList := by decide
  obtain ⟨keyed, -, text⟩ := item_spec plain.1 plain.2 (String.ofList (List.replicate 4301 '1'))
  have spelled : (String.ofList (List.replicate 4301 '1')).toList =
      '1' :: List.replicate 4300 '1' :=
    String.toList_ofList
  have digits : ∀ d ∈ '1' :: List.replicate 4300 '1', d.isDigit = true := by
    intro d hd
    rw [← List.replicate_succ] at hd
    cases List.eq_of_mem_replicate hd
    rfl
  have length : ('1' :: List.replicate 4300 '1').length = 4301 := by
    rw [List.length_cons, List.length_replicate]
  have long := Json.read_tooLong spelled digits (by decide)
    (show longestInteger < _ by rw [length]; decide)
  rw [length, ← text] at long
  exact ⟨⟨"b", List.mem_cons_of_mem _ List.mem_cons_self, .inl (by decide)⟩,
    go_tooLong _ _ keyed long⟩

end CommandLine

end OperationHooks
