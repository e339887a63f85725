import OperationHooks.Proofs.GraphQL.Tokens
import OperationHooks.Proofs.Text.Lines

/-!
# Indentation has no meaning

A text that is made of tokens is made of the same tokens when its lines are moved in: blanks
between tokens separate nothing that was not separated, names, numbers and strings stand on one
line each, and what a block string loses to its indentation it loses with all the blanks put
before its lines.
-/

namespace OperationHooks

variable (m : Margin)

/-! ### Block strings -/

namespace BlockString

variable {m}

lemma isIndent_blank : isIndent ' ' = true := by decide

lemma isBlank_of_moved {l l' : List Char} (h : Moved m l l') : isBlank l' = isBlank l := by
  obtain ⟨k, rfl, -, -⟩ := h
  simp [isBlank, isIndent_blank]

/-- A line that is not blank is indented by the whole width more. -/
lemma indentation_of_moved {l l' : List Char} (h : Moved m l l') (hl : isBlank l = false) :
    indentation l' = m.width + indentation l := by
  obtain ⟨k, rfl, -, hk⟩ := h
  have hne : l ≠ [] := by rintro rfl; exact absurd hl (by decide)
  rw [indentation, hk hne, List.takeWhile_append_of_pos, List.length_append,
    List.length_replicate, indentation]
  intro c hc
  rw [List.eq_of_mem_replicate hc]
  exact isIndent_blank

lemma commonIndent_of_moved {ls ls' : List (List Char)} (h : List.Forall₂ (Moved m) ls ls') :
    commonIndent ls' = (commonIndent ls).map (m.width + ·) := by
  induction h with
  | nil => rfl
  | @cons l l' ls ls' hl _ ih =>
    rw [commonIndent, commonIndent, isBlank_of_moved hl]
    cases hb : isBlank l with
    | true => exact ih
    | false =>
      rw [ih, indentation_of_moved hl hb]
      cases commonIndent ls with
      | none => rfl
      | some n => simp [Nat.add_min_add_left]

lemma drop_of_moved {l l' : List Char} (h : Moved m l l') (n : Nat) :
    l'.drop (m.width + n) = l.drop n := by
  obtain ⟨k, rfl, hk, hl⟩ := h
  cases l with
  | nil =>
    rw [List.append_nil, List.drop_nil, List.drop_eq_nil_iff, List.length_replicate]
    omega
  | cons c l =>
    rw [hl (List.cons_ne_nil c l), List.drop_append, List.drop_eq_nil_of_le (by simp),
      List.length_replicate, List.nil_append, Nat.add_sub_cancel_left]

lemma isBlank_of_commonIndent_eq_none {ls : List (List Char)} (h : commonIndent ls = none) :
    ∀ l ∈ ls, isBlank l = true := by
  induction ls with
  | nil => simp
  | cons l ls ih =>
    rw [commonIndent] at h
    split at h
    · rename_i hb
      intro l' hl
      rcases List.mem_cons.mp hl with rfl | hl
      · exact hb
      · exact ih h l' hl
    · split at h <;> cases h

/-- Blank lines at the end are left out. -/
lemma trimBlank_cons {first : List Char} {ls : List (List Char)}
    (h : ∀ l ∈ ls, isBlank l = true) : trimBlank (first :: ls) = trimBlank [first] := by
  rw [trimBlank, trimBlank, List.dropWhile_cons, List.dropWhile_cons]
  split
  · rw [← List.append_nil ls, List.dropWhile_append_of_pos h]
  · rw [List.reverse_cons, List.dropWhile_append_of_pos fun l hl => h l (List.mem_reverse.mp hl)]
    rfl

/-- What is common to the lines of a block string is left out, and so are blanks put before all
of them. -/
lemma dedent_of_moved {first : List Char} {ls ls' : List (List Char)}
    (h : List.Forall₂ (Moved m) ls ls') : dedent (first :: ls') = dedent (first :: ls) := by
  rw [dedent, dedent, commonIndent_of_moved h]
  cases hc : commonIndent ls with
  | none =>
    have blank := isBlank_of_commonIndent_eq_none hc
    have blank' : commonIndent ls' = none := by rw [commonIndent_of_moved h, hc]; rfl
    have blank' := isBlank_of_commonIndent_eq_none blank'
    have same (xs : List (List Char)) : xs.map (List.drop 0) = xs := List.map_id xs
    rw [Option.map_none, Option.getD_none, same, same, trimBlank_cons blank,
      trimBlank_cons blank']
  | some n =>
    simp only [Option.map_some, Option.getD_some]
    congr 2
    clear hc
    induction h with
    | nil => rfl
    | cons hl _ ih => rw [List.map_cons, List.map_cons, drop_of_moved hl, ih]

/-- The value of a block string does not depend on how far its lines are moved in. -/
lemma value_moveLines (raw : List Char) : value (moveLines m raw) = value raw := by
  obtain ⟨l, ls, h⟩ := exists_splitLines raw
  obtain ⟨ls', h', moved⟩ := splitLines_moveLines m h
  rw [value, value, h, h', dedent_of_moved moved]

end BlockString

/-! ### What scanners take -/

/-- What may stand behind a text whose lines are moved in: nothing, or another line. -/
def LineTail (tail : List Char) : Prop := ∀ c ∈ tail.head?, c = '\n'

lemma LineTail.stops {tail : List Char} (h : LineTail tail) {p : Char → Bool}
    (hp : p '\n' = false) : Stops p tail := by
  intro c hc
  rw [h c hc, hp]

/-- A moved text goes on as it did, or with another line. -/
lemma stops_moveLines {p : Char → Bool} {rest tail : List Char} (h : Stops p rest)
    (ht : LineTail tail) (hp : p '\n' = false) : Stops p (moveLines m rest ++ tail) := by
  refine Stops.append ?_ (ht.stops hp)
  rw [Stops, head?_moveLines]
  exact h

/-- What a moved text starts with on one line, the text itself starts with. -/
lemma exists_of_moveLines_eq_append {w r tail x : List Char} (hw : '\n' ∉ w) (ht : LineTail tail)
    (h : moveLines m r ++ tail = w ++ x) : ∃ x', r = w ++ x' := by
  induction w generalizing r with
  | nil => exact ⟨r, rfl⟩
  | cons d w ih =>
    rw [List.mem_cons, not_or] at hw
    cases r with
    | nil =>
      rw [moveLines_nil, List.nil_append] at h
      have hd := ht d (by rw [h]; rfl)
      exact absurd hd.symm hw.1
    | cons c r =>
      by_cases hc : c = '\n'
      · rw [hc, moveLines_newline, List.cons_append, List.cons_append, List.cons.injEq] at h
        exact absurd h.1 hw.1
      · rw [moveLines_cons m hc, List.cons_append, List.cons_append, List.cons.injEq] at h
        obtain ⟨rfl, h⟩ := h
        obtain ⟨x', rfl⟩ := ih hw.2 h
        exact ⟨x', rfl⟩

/-! ### Strings -/

lemma InTripleQuotes.blanks {w r raw rest : List Char} (hw : ∀ c ∈ w, c = ' ')
    (h : InTripleQuotes r raw rest) : InTripleQuotes (w ++ r) (w ++ raw) rest := by
  induction w with
  | nil => exact h
  | cons c w ih =>
    have hc : c = ' ' := hw c List.mem_cons_self
    subst hc
    exact .char (by decide) (by simp) (by simp) (ih fun d hd => hw d (List.mem_cons_of_mem _ hd))

/-- A line of the text between triple quotes is empty where the line that writes it is, and none
is the last one. -/
lemma InTripleQuotes.before_eq {r raw rest : List Char} (h : InTripleQuotes r raw rest) :
    m.quoted.before raw = m.before r := by
  cases h with
  | close => rfl
  | escape _ => rfl
  | char _ _ _ _ => rfl

/-- The text between triple quotes is moved with the lines that write it. -/
lemma InTripleQuotes.moveLines {cs raw rest tail : List Char} (ht : LineTail tail)
    (h : InTripleQuotes cs raw rest) :
    InTripleQuotes (moveLines m cs ++ tail) (moveLines m.quoted raw)
      (moveLines m rest ++ tail) := by
  induction h with
  | close => exact .close
  | escape _ ih => exact .escape ih
  | @char c r raw rest hr hq hb h ih =>
    by_cases hc : c = '\n'
    · subst hc
      rw [moveLines_newline, moveLines_newline, h.before_eq m, List.cons_append,
        List.append_assoc]
      exact .char hr (by simp) (by simp) (ih.blanks fun _ => m.mem_before)
    · rw [moveLines_cons m hc, moveLines_cons m.quoted hc, List.cons_append]
      refine .char hr ?_ ?_ ih
      · rintro ⟨rfl, r', hr⟩
        obtain ⟨x', rfl⟩ := exists_of_moveLines_eq_append m (w := ['"', '"']) (by decide) ht hr
        exact hq ⟨rfl, x', rfl⟩
      · rintro ⟨rfl, r', hr⟩
        obtain ⟨x', rfl⟩ :=
          exists_of_moveLines_eq_append m (w := ['"', '"', '"']) (by decide) ht hr
        exact hb ⟨rfl, x', rfl⟩

/-- A string stands on one line. -/
lemma InQuotes.moveLines {cs value rest : List Char} (tail : List Char)
    (h : InQuotes cs value rest) :
    InQuotes (moveLines m cs ++ tail) value (moveLines m rest ++ tail) := by
  induction h with
  | close => exact .close
  | @escape r r₁ rest value x hx _ ih =>
    obtain ⟨w, hw, rfl, stable⟩ := takesInLine_escape hx
    rw [moveLines_cons m (by decide), moveLines_append m hw, List.cons_append, List.append_assoc]
    exact .escape (stable _) ih
  | @char c r rest value hq hb hl _ ih =>
    have hc : c ≠ '\n' := by rintro rfl; exact absurd hl (by decide)
    rw [moveLines_cons m hc, List.cons_append]
    exact .char hq hb hl ih

/-! ### Tokens -/

lemma newline_not_mem_name (n : Name) : '\n' ∉ n.chars :=
  fun h => absurd (n.isNameContinue_chars _ h) (by decide)

/-- A token of a text is a token of the text with its lines moved in. -/
lemma Takes.moveLines {cs rest tail : List Char} {t : Token} (hr : '\r' ∉ cs)
    (ht : LineTail tail) (h : Takes cs t rest) :
    Takes (moveLines m cs ++ tail) t (moveLines m rest ++ tail) := by
  cases h with
  | @block r _ raw h =>
    have hr : '\r' ∉ r := fun h => hr (by simp [h])
    have quotes : InTripleQuotes r raw.1 rest :=
      inTripleQuotes_of_blockOutcome hr (by rw [blockOutcome, h]; rfl)
    obtain ⟨⟨raw', rest'⟩, hb, heq⟩ :=
      Option.map_eq_some_iff.mp (quotes.moveLines m ht).blockOutcome_eq
    have hraw : raw'.1 = OperationHooks.moveLines m.quoted raw.1 := (Prod.mk.inj heq).1
    have hrest : rest' = OperationHooks.moveLines m rest ++ tail := (Prod.mk.inj heq).2
    subst hrest
    have same : BlockText.ofRaw raw' = BlockText.ofRaw raw := by
      simp only [BlockText.ofRaw, hraw, BlockString.value_moveLines]
    rw [← same]
    exact .block hb
  | string single h =>
    refine .string ?_ (h.moveLines m tail)
    rintro ⟨r', hr'⟩
    obtain ⟨x', rfl⟩ := exists_of_moveLines_eq_append m (w := ['"', '"']) (by decide) ht hr'
    exact single ⟨x', rfl⟩
  | spread => exact .spread
  | @mark c _ p h =>
    have hc : c ≠ '\n' := by rintro rfl; exact absurd h (by cases p <;> decide)
    rw [moveLines_cons m hc]
    exact .mark h
  | @number n _ stop =>
    rw [moveLines_append m (lineEnd_not_mem_number (.inl rfl)), List.append_assoc]
    exact .number (stops_moveLines m stop ht (by decide))
  | @name n _ stop =>
    rw [moveLines_append m (newline_not_mem_name n), List.append_assoc]
    exact .name (stops_moveLines m stop ht (by decide))

/-! ### Texts -/

lemma dropIgnored_blanks {w : List Char} (hw : ∀ c ∈ w, c = ' ') (r : List Char) :
    dropIgnored false (w ++ r) = dropIgnored false r := by
  induction w with
  | nil => rfl
  | cons c w ih =>
    rw [hw c List.mem_cons_self, List.cons_append, dropIgnored]
    exact ih fun d hd => hw d (List.mem_cons_of_mem _ hd)

/-- A comment ends with its line. -/
lemma dropIgnored_lineTail (comment : Bool) {tail : List Char} (ht : LineTail tail) :
    dropIgnored comment tail = dropIgnored false tail := by
  cases tail with
  | nil => rfl
  | cons c tail =>
    rw [ht c rfl]
    cases comment <;> rfl

/-- What is found behind blanks and comments is found there when lines are moved in. -/
lemma dropIgnored_moveLines {cs tail : List Char} (ht : LineTail tail) (comment : Bool) :
    dropIgnored comment (moveLines m cs ++ tail) =
      if dropIgnored comment cs = [] then dropIgnored false tail
      else moveLines m (dropIgnored comment cs) ++ tail := by
  induction cs generalizing comment with
  | nil =>
    rw [moveLines_nil, List.nil_append, dropIgnored_lineTail comment ht]
    rfl
  | cons c r ih =>
    by_cases hc : c = '\n'
    · subst hc
      have line (b : Bool) (x : List Char) : dropIgnored b ('\n' :: x) = dropIgnored false x := by
        cases b <;> rfl
      rw [moveLines_newline, List.cons_append, List.append_assoc, line, line,
        dropIgnored_blanks fun _ => m.mem_before, ih]
    · rw [moveLines_cons m hc, List.cons_append]
      cases comment with
      | true =>
        rw [dropIgnored, dropIgnored, if_pos rfl, if_pos rfl, ih]
      | false =>
        by_cases hh : c = '#'
        · subst hh
          exact ih true
        · cases hi : isIgnored c with
          | true => simp [dropIgnored, hh, hi, ih]
          | false => simp [dropIgnored, hh, hi, moveLines_cons m hc]

lemma suffix_dropIgnored (comment : Bool) (cs : List Char) : dropIgnored comment cs <:+ cs := by
  induction cs generalizing comment with
  | nil => exact List.suffix_refl _
  | cons c r ih =>
    rw [dropIgnored]
    split
    · exact (ih _).trans (List.suffix_cons c r)
    · split
      · exact (ih _).trans (List.suffix_cons c r)
      · split
        · exact (ih _).trans (List.suffix_cons c r)
        · exact List.suffix_refl _

lemma InTripleQuotes.suffix {cs raw rest : List Char} (h : InTripleQuotes cs raw rest) :
    rest <:+ cs := by
  induction h with
  | @close rest => exact List.suffix_append ['"', '"', '"'] rest
  | @escape r _ _ _ ih => exact ih.trans (List.suffix_append ['\\', '"', '"', '"'] r)
  | @char c r _ _ _ _ _ _ ih => exact ih.trans (List.suffix_cons c r)

lemma InQuotes.suffix {cs value rest : List Char} (h : InQuotes cs value rest) : rest <:+ cs := by
  induction h with
  | @close rest => exact List.suffix_cons '"' rest
  | @escape r r₁ _ _ _ hx _ ih =>
    obtain ⟨w, -, rfl, -⟩ := takesInLine_escape hx
    exact ih.trans ((List.suffix_append w r₁).trans (List.suffix_cons '\\' (w ++ r₁)))
  | @char c r _ _ _ _ _ _ ih => exact ih.trans (List.suffix_cons c r)

/-- What stands behind a token is the end of the text. -/
lemma Takes.suffix {cs rest : List Char} {t : Token} (hr : '\r' ∉ cs) (h : Takes cs t rest) :
    rest <:+ cs := by
  cases h with
  | @block r _ raw h =>
    have hr : '\r' ∉ r := fun h => hr (by simp [h])
    have quotes : InTripleQuotes r raw.1 rest :=
      inTripleQuotes_of_blockOutcome hr (by rw [blockOutcome, h]; rfl)
    exact quotes.suffix.trans (List.suffix_append ['"', '"', '"'] r)
  | @string r _ _ _ h => exact h.suffix.trans (List.suffix_cons '"' r)
  | spread => exact List.suffix_append ['.', '.', '.'] rest
  | @mark c _ _ _ => exact List.suffix_cons c rest
  | @number n _ _ => exact List.suffix_append n.chars rest
  | @name n _ _ => exact List.suffix_append n.chars rest

/-- A token takes a character at least. -/
lemma Takes.length_lt {cs rest : List Char} {t : Token} (h : Takes cs t rest) :
    rest.length < cs.length := by
  obtain ⟨c, r, rfl, -, -⟩ := h.exists_head
  exact of_outcome_eq_some (outcome_scanToken.mpr h)

/-- A text of tokens with its lines moved in is a text of the same tokens, and of the tokens of
the lines behind it. -/
lemma tokens?_moveLines {cs tail : List Char} {ts : List Token} (hr : '\r' ∉ cs)
    (ht : LineTail tail) (h : tokens? cs = some ts) :
    tokens? (moveLines m cs ++ tail) = (tokens? tail).map (ts ++ ·) := by
  induction hn : cs.length using Nat.strongRecOn generalizing cs ts with
  | ind n ih =>
    subst hn
    have drop : dropIgnored false (moveLines m cs ++ tail) = _ := dropIgnored_moveLines m ht false
    obtain ⟨hd, rfl⟩ | ⟨t, rest, us, takes, hu, rfl⟩ := tokens?_cases h
    · rw [if_pos hd] at drop
      rw [tokens?_congr drop]
      simp
    · have suffix := suffix_dropIgnored false cs
      have noReturn : '\r' ∉ dropIgnored false cs := fun h => hr (suffix.subset h)
      have noReturn' : '\r' ∉ rest := fun h => noReturn ((takes.suffix noReturn).subset h)
      have short : rest.length < cs.length :=
        Nat.lt_of_lt_of_le takes.length_lt suffix.length_le
      have nonempty : dropIgnored false cs ≠ [] := by
        obtain ⟨c, r, hcs, -, -⟩ := takes.exists_head
        rw [hcs]
        exact List.cons_ne_nil c r
      have moved := takes.moveLines m noReturn ht
      rw [if_neg nonempty, ← moved.dropIgnored_eq] at drop
      rw [tokens?_congr drop, moved.tokens?_eq, ih _ short noReturn' hu rfl, Option.map_map]
      rfl

/-! ### Indented texts -/

/-- A text whose lines are moved in, all but the empty ones, is made of the same tokens: a block
string in it keeps its value, whatever lines it has. -/
theorem tokens_indented {cs : List Char} {ts : List Token} (noReturn : '\r' ∉ cs)
    (h : tokens? cs = some ts) :
    tokens? (joinLines ((splitLines cs).map moveIn)) = some ts := by
  have nothing : tokens? [] = some [] := tokens?_of_dropIgnored_eq_nil rfl
  have noTail : LineTail [] := fun c hc => by cases hc
  have moved := tokens?_moveLines constantMargin noReturn noTail h
  rw [List.append_nil, nothing] at moved
  -- the first line is moved in as well, but nothing that has a meaning stands in front of it
  have front : dropIgnored false (joinLines ((splitLines cs).map moveIn)) =
      dropIgnored false (moveLines constantMargin cs) := by
    rw [joinLines_map_moveIn, dropIgnored_blanks fun _ => constantMargin.mem_before]
  rw [tokens?_congr front, moved, Option.map_some, List.append_nil]

/-- An operation with a comment, and with a block string of all kinds of lines: one behind the
opening quotes, an empty one, one of blanks alone, lines that are indented by blanks and tabs to
different depths, and one with triple quotes in it. -/
def raggedText : String :=
  "query Q(\n$a: [Int!] = [1, -2.5e3] # \"\n)\n\n\x7b\n  b(c: \"\"\"  first\n\n    \t\n   deep\n"
    ++ "  \\\"\"\"\n \tx\n\n\"\"\") \x7d\n"

theorem tokens_indented_ragged :
    let cs := raggedText.toList
    '\r' ∉ cs ∧ joinLines ((splitLines cs).map moveIn) ≠ cs ∧
      ∃ ts, tokens? cs = some ts ∧ tokens? (joinLines ((splitLines cs).map moveIn)) = some ts ∧
        .block ⟨"  first\n\n  \t\n deep\n\"\"\"\nx", by decide⟩ ∈ ts := by
  intro cs
  have noReturn : '\r' ∉ cs := by decide
  have block : (tokens? cs).any
      (·.contains (.block ⟨"  first\n\n  \t\n deep\n\"\"\"\nx", by decide⟩)) = true := by
    decide +kernel
  obtain ⟨ts, h, held⟩ := (Option.any_eq_true _ _).mp block
  refine ⟨noReturn, by decide, ts, h, tokens_indented noReturn h, ?_⟩
  simpa using held

end OperationHooks
