import Calculator.Proofs.Toml.Value
import Calculator.Toml.Document

/-!
# `Calculator.Proofs.Toml.Document`: sections are read back

A section is written in lines, each of which is a statement. `IsStatement` says
what a line does to a document, wherever the line ends. The header opens the
section (`isStatement_header`), and a field with a new name is added to it
(`isStatement_field`). One step of the reader takes one line with its line end,
in either form (`statements_cons`), and so a whole section is read line by line
(`statements_fields`, `read_writesSection`).

An integer with too many digits is written in the same way, but not read back. The
reader fails at the first field that has one (`read_writesSection_long`).
-/

set_option autoImplicit false

namespace Calculator.Toml

open Data

variable {rest : List Char}

/-! ### Keys -/

/-- Whether a name is a bare word, so that it can be a key or the name of a section without
quotation marks. -/
def IsBareWord (name : String) : Prop :=
  name.toList ≠ [] ∧ ∀ c ∈ name.toList, isBare c = true

instance (name : String) : Decidable (IsBareWord name) :=
  decidable_of_iff (name.toList ≠ [] ∧ name.toList.all isBare = true) (by
    rw [IsBareWord, List.all_eq_true])

/-- A word that is written out is bare if its characters are, which are at hand. This saves
decoding the word. -/
theorem IsBareWord.ofList {chars : List Char} (hne : chars ≠ [])
    (bare : ∀ c ∈ chars, isBare c = true) : IsBareWord (String.ofList chars) := by
  rw [IsBareWord, String.toList_ofList]
  exact ⟨hne, bare⟩

/-- A bare word has at least one character, and this is a bare one, so a line that starts with it
is neither blank nor a comment. -/
theorem IsBareWord.exists_cons {name : String} (bare : IsBareWord name) :
    ∃ c more, name.toList = c :: more ∧ isBare c = true := by
  obtain ⟨c, more, hname⟩ := List.exists_cons_of_ne_nil bare.1
  exact ⟨c, more, hname, bare.2 c (hname ▸ List.mem_cons_self ..)⟩

/-- A bare word has no carriage return in it, which may be part of a line end and would be
lost. -/
theorem IsBareWord.noReturn {name : String} (bare : IsBareWord name) : '\r' ∉ name.toList :=
  fun h => absurd (bare.2 _ h) (by decide)

/-- The characters of bare words are no spaces, so no space at the end of a word is taken for a
part of it. -/
theorem isSpace_of_isBare {c : Char} (hc : isBare c = true) : isSpace c = false := by
  refine Bool.eq_false_iff.mpr fun h => ?_
  rcases Bool.or_eq_true_iff.mp h with h | h <;> rw [eq_of_beq h] at hc <;> cases hc

/-- A bare word is read back as a key, up to a character that can stand in no
such word. -/
theorem key_bare {name : String} (bare : IsBareWord name) {c : Char} (hc : isBare c = false)
    {after : List Char} (hafter : dropSpaces (c :: rest) = after) (hdot : after.head? ≠ some '.') :
    key (name.toList ++ c :: rest) = .ok (⟨[], name⟩, after) := by
  obtain ⟨hne, all⟩ := bare
  have read : keyPart (name.toList ++ c :: rest) = .ok (name, c :: rest) := by
    obtain ⟨first, others, hname⟩ := List.exists_cons_of_ne_nil hne
    rw [hname] at all ⊢
    obtain ⟨hfirst, hothers⟩ := List.forall_mem_cons.mp all
    rw [List.cons_append, keyPart]
    · have stop : ¬isBare c = true := Bool.eq_false_iff.mp hc
      rw [if_pos hfirst, List.takeWhile_append_of_pos hothers,
        List.dropWhile_append_of_pos hothers, List.takeWhile_cons_of_neg stop,
        List.dropWhile_cons_of_neg stop, List.append_nil, ← hname, String.ofList_toList]
    · rintro rfl
      exact absurd hfirst (by decide)
    · rintro rfl
      exact absurd hfirst (by decide)
  have shorter : (c :: rest).length < (name.toList ++ c :: rest).length := by
    have := List.length_pos_iff.mpr hne
    rw [List.length_append]
    omega
  rw [key, advancing_ok read shorter]
  dsimp only
  split
  · next more hmore =>
    rw [hafter] at hmore
    exact absurd (by rw [hmore]; rfl) hdot
  · rw [hafter]

/-- At a character that is no space, dropping spaces leaves the input as it is, so nothing is lost
there. -/
theorem dropSpaces_cons {c : Char} (hc : isSpace c = false) (rest : List Char) :
    dropSpaces (c :: rest) = c :: rest :=
  List.dropWhile_cons_of_neg (by rw [hc]; decide)

/-- The sign behind a bare word is read with it, and so are the spaces around the sign. -/
theorem keyAndSign_bare {name : String} (bare : IsBareWord name) {c : Char}
    (hc : isSpace c = false) (rest : List Char) :
    keyAndSign (name.toList ++ ' ' :: '=' :: ' ' :: c :: rest) = .ok (⟨[], name⟩, c :: rest) := by
  have read : key (name.toList ++ ' ' :: '=' :: ' ' :: c :: rest) =
      .ok (⟨[], name⟩, '=' :: ' ' :: c :: rest) :=
    key_bare bare (by decide) rfl (by simp)
  rw [keyAndSign, read]
  show Except.ok (_, dropSpaces (c :: rest)) = _
  rw [dropSpaces_cons hc]

/-! ### Tables -/

/-- The content of a table that holds finished values only, as it is after some fields were
read. -/
def finished (fields : List (String × Value)) : Entries :=
  fields.map fun field => (field.1, .value field.2)

/-- Entries that are all finished become the fields that they were made of, in the same order. -/
theorem finishAll_finished (fields : List (String × Value)) :
    finishAll (finished fields) = fields := by
  induction fields with
  | nil => rfl
  | cons field fields ih =>
    rw [finished, List.map_cons, finishAll, Entry.finish]
    exact congrArg _ ih

/-- An entry under a new name is put behind all entries that are there, so fields keep the order
of the document. -/
theorem put_new {name : String} {entries : Entries} (new : entries.lookup name = none)
    (entry : Entry) : put name entry entries = entries ++ [(name, entry)] := by
  induction entries with
  | nil => rfl
  | cons first entries ih =>
    rw [List.lookup_cons] at new
    split at new
    · cases new
    · next hne =>
      have other : (first.1 == name) = false := by rw [BEq.comm]; exact hne
      rw [put, other, ih new]
      rfl

/-- A value is assigned to a new name, behind the fields that are there. -/
theorem assign_finished {fields : List (String × Value)} {name : String}
    (new : name ∉ fields.map Prod.fst) (opener : Nat) (value : Value) :
    assign opener name value [] (finished fields) = .ok (finished (fields ++ [(name, value)])) := by
  have none : (finished fields).lookup name = none := by
    refine List.lookup_eq_none_iff.mpr fun entry hentry => ?_
    obtain ⟨field, hfield, rfl⟩ := List.mem_map.mp hentry
    exact bne_iff_ne.mpr fun h => new (h ▸ List.mem_map_of_mem hfield)
  rw [assign, none]
  dsimp only
  rw [put_new none, finished, finished, List.map_append]
  rfl

/-- A change goes down to the table of the only section, and the section stays the only one. -/
theorem descend_table (change : Entries → Except Error Entries) (name : String)
    (openedBy : Option Nat) (entries : Entries) :
    descend change [name] [(name, .table openedBy entries)] =
      (change entries).map fun changed => [(name, .table openedBy changed)] := by
  rw [descend, List.lookup_cons_self]
  show ((change entries).map (Entry.table openedBy)).map (put name · _) = _
  cases change entries with
  | error => rfl
  | ok changed =>
    show Except.ok (put name (.table openedBy changed) [(name, .table openedBy entries)]) = _
    rw [put, beq_self_eq_true]
    rfl

/-! ### Statements -/

/-- A document with one section so far, into which all further fields go. -/
def sectionDocument (name : String) (fields : List (String × Value)) : Document :=
  ⟨1, [name], [(name, .table (some 1) (finished fields))]⟩

/-- A header opens its section, which has no fields yet. -/
theorem tableSection_header {name : String} (bare : IsBareWord name) (rest : List Char) :
    tableSection ⟨0, [], []⟩ (name.toList ++ ']' :: rest) =
      .ok (sectionDocument name [], rest) := by
  have header : key (name.toList ++ ']' :: rest) = .ok (⟨[], name⟩, ']' :: rest) :=
    key_bare bare (by decide) rfl (by simp)
  have spaces : dropSpaces (name.toList ++ ']' :: rest) = name.toList ++ ']' :: rest := by
    obtain ⟨c, more, hname, hc⟩ := bare.exists_cons
    rw [hname, List.cons_append, dropSpaces_cons (isSpace_of_isBare hc)]
  rw [tableSection, spaces, header]
  rfl

/-- Whether a text is read as a value by the reader of any value, as long as nothing else
is on the line. -/
structure ReadsAs (value : Value) (text : List Char) : Prop where
  /-- The text has no carriage return in it, which may be part of a line end. -/
  noReturn : '\r' ∉ text
  /-- The text starts with something else than a space. -/
  start : ∃ c inner, text = c :: inner ∧ isSpace c = false
  /-- The text is read as the value, up to the end of the line. -/
  read : ∀ rest, EndsLine rest → ∃ shorter, Toml.value (text ++ rest) = .ok ⟨value, rest, shorter⟩

/-- A written value starts with something else than a space. -/
theorem Writes.exists_cons_not_space {value : Value} {text : List Char}
    (written : Writes value text) : ∃ c inner, text = c :: inner ∧ isSpace c = false := by
  obtain ⟨c, inner, rfl, hc⟩ := written.exists_cons
  refine ⟨c, inner, rfl, ?_⟩
  rcases hc with rfl | hc
  · decide
  · exact isSpace_of_isBare hc

/-- A written value is read as this value, if it is no integer of too many digits. Its text has no
carriage return in it either, and it does not start with a space. -/
theorem Writes.readsAs {value : Value} {text : List Char} (written : Writes value text)
    (short : IsShort value) : ReadsAs value text where
  noReturn := written.noReturn
  start := written.exists_cons_not_space
  read _ ends := value_writes written short ends

/-- Behind the name and the sign stands the value that is put into the table, up to the end of the
line. -/
theorem assignment_bare {key : String} (bare : IsBareWord key) {c : Char}
    (hc : isSpace c = false) (document : Document) (input : List Char) :
    assignment document (key.toList ++ ' ' :: '=' :: ' ' :: c :: input) =
      Toml.value (c :: input) >>= fun taken =>
        descend (assign document.sections key taken.value []) document.header document.entries >>=
          fun entries => pure ({ document with entries := entries }, taken.rest) := by
  rw [assignment, keyAndSign_bare bare hc]
  rfl

/-- A field with a new name is added to the section, and what stands behind it is left. -/
theorem assignment_field {name key : String} {done : List (String × Value)} {value : Value}
    {text : List Char} (bare : IsBareWord key) (reads : ReadsAs value text)
    (new : key ∉ done.map Prod.fst) (ends : EndsLine rest) :
    assignment (sectionDocument name done) (key.toList ++ ' ' :: '=' :: ' ' :: (text ++ rest)) =
      .ok (sectionDocument name (done ++ [(key, value)]), rest) := by
  obtain ⟨shorter, read⟩ := reads.read rest ends
  obtain ⟨c, inner, rfl, hc⟩ := reads.start
  rw [List.cons_append, assignment_bare bare hc,
    show Toml.value (c :: (inner ++ rest)) = _ from read]
  show (descend (assign 1 key value []) [name] _ >>= fun entries => pure (_, rest)) = _
  rw [sectionDocument, descend_table, assign_finished new]
  rfl

/-- Whether a line is a statement that leads from a document to the next one, as
long as nothing else is on the line. -/
structure IsStatement (document : Document) (line : List Char) (next : Document) : Prop where
  /-- The line has no carriage return in it, which may be part of a line end. -/
  noReturn : '\r' ∉ line
  /-- The line starts with something else than a space. -/
  start : ∃ c more, line = c :: more ∧ isSpace c = false
  /-- The line is read as a statement, together with its line end. -/
  read : ∀ rest, EndsLine rest → statement document (line ++ rest) = .ok (next, rest.drop 1)

/-- A line end is dropped. -/
theorem dropLineEnd_of_endsLine (ends : EndsLine rest) : dropLineEnd rest = .ok (rest.drop 1) := by
  rcases ends.eq_nil_or_newline with rfl | ⟨more, rfl⟩ <;> rfl

/-- A header by itself is a statement, which opens an empty section. -/
theorem isStatement_header {name : String} (bare : IsBareWord name) :
    IsStatement ⟨0, [], []⟩ ('[' :: (name.toList ++ [']'])) (sectionDocument name []) where
  noReturn := by simp [bare.noReturn]
  start := ⟨_, _, rfl, by decide⟩
  read rest ends := by
    rw [List.cons_append, List.append_assoc, List.singleton_append, statement,
      tableSection_header bare]
    · show (dropLineEnd rest >>= fun after => pure (sectionDocument name [], after)) = _
      rw [dropLineEnd_of_endsLine ends]
      rfl
    · decide
    · -- The name does not start with a second bracket.
      intro after heq
      obtain ⟨c, more, hname, hc⟩ := bare.exists_cons
      rw [hname] at heq
      exact ne_of_passes hc rfl (List.cons.inj heq).1

/-- A value is assigned on a line that starts with a bare word, as the line is neither a header
nor a comment. -/
theorem statement_bare {c : Char} (hc : isBare c = true) (document : Document)
    (input : List Char) :
    statement document (c :: input) =
      assignment document (c :: input) >>= fun read =>
        dropLineEnd read.2 >>= fun rest => pure (read.1, rest) := by
  have noComment : (c == '#') = false := beq_eq_false_iff_ne.mpr (ne_of_passes hc rfl)
  have noHeader : (c == '[') = false := beq_eq_false_iff_ne.mpr (ne_of_passes hc rfl)
  have startsKey : startsKey c = true := by rw [startsKey, hc]; rfl
  unfold statement
  split
  · next hinput => cases hinput
  · next hinput => exact absurd (List.cons.inj hinput).1 (ne_of_passes hc rfl)
  · next d others _ hinput =>
    obtain ⟨rfl, rfl⟩ := List.cons.inj hinput
    simp only [noComment, noHeader, startsKey, Bool.false_eq_true, if_false, if_true]

/-- An assignment up to the end of its line is a statement, and the line end is taken
with it. -/
theorem statement_of_assignment {document next : Document} {c : Char} {input : List Char}
    (hc : isBare c = true) (h : assignment document (c :: input) = .ok (next, rest))
    (ends : EndsLine rest) : statement document (c :: input) = .ok (next, rest.drop 1) := by
  rw [statement_bare hc, h]
  show (dropLineEnd rest >>= fun after => pure (next, after)) = _
  rw [dropLineEnd_of_endsLine ends]
  rfl

/-- Whether a line has the name of a field, the sign, and a text that is read as the value
of the field. -/
def ReadsField (field : String × Value) (line : List Char) : Prop :=
  IsBareWord field.1 ∧
    ∃ text, ReadsAs field.2 text ∧ line = field.1.toList ++ ' ' :: '=' :: ' ' :: text

/-- A written field stands on one line, as no carriage return is in it and texts have their
newlines escaped. -/
theorem WritesField.noReturn {field : String × Value} {line : List Char}
    (h : WritesField field line) (bare : IsBareWord field.1) : '\r' ∉ line := by
  obtain ⟨text, written, rfl⟩ := h
  simp [bare.noReturn, written.noReturn]

/-- A line that starts with a bare word starts with something else than a space, so nothing is
dropped in front of it. -/
theorem IsBareWord.exists_cons_append {name : String} (bare : IsBareWord name)
    (behind : List Char) : ∃ c more, name.toList ++ behind = c :: more ∧ isSpace c = false := by
  obtain ⟨c, more, hname, hc⟩ := bare.exists_cons
  exact ⟨c, _, by rw [hname, List.cons_append], isSpace_of_isBare hc⟩

/-- A written field is read, if its value is no integer of too many digits. From here on it does
not matter how it was written. -/
theorem WritesField.readsField {field : String × Value} {line : List Char}
    (h : WritesField field line) (bare : IsBareWord field.1) (short : IsShort field.2) :
    ReadsField field line := by
  obtain ⟨text, written, rfl⟩ := h
  exact ⟨bare, text, written.readsAs short, rfl⟩

/-- A written field starts with its name, and so with a character that is no space. -/
theorem WritesField.exists_cons {field : String × Value} {line : List Char}
    (h : WritesField field line) (bare : IsBareWord field.1) :
    ∃ c more, line = c :: more ∧ isSpace c = false := by
  obtain ⟨text, -, rfl⟩ := h
  exact bare.exists_cons_append _

/-- A field with a new name is a statement, which adds it to the section behind the fields that
are there. -/
theorem isStatement_field {name : String} {done : List (String × Value)}
    {field : String × Value} {line : List Char} (h : ReadsField field line)
    (new : field.1 ∉ done.map Prod.fst) :
    IsStatement (sectionDocument name done) line (sectionDocument name (done ++ [field])) := by
  obtain ⟨bare, text, reads, rfl⟩ := h
  refine ⟨by simp [bare.noReturn, reads.noReturn], bare.exists_cons_append _, fun rest ends => ?_⟩
  have assigned : assignment (sectionDocument name done)
      (field.1.toList ++ ' ' :: '=' :: ' ' :: (text ++ rest)) =
        .ok (sectionDocument name (done ++ [field]), rest) :=
    assignment_field bare reads new ends
  obtain ⟨c, more, hname, hc⟩ := bare.exists_cons
  rw [List.append_assoc]
  rw [hname] at assigned ⊢
  exact statement_of_assignment hc assigned ends

/-- A field with too many digits is no statement: reading fails there with the number of digits as
the reason. -/
theorem statement_field_long (document : Document) {field : String × Value}
    {line : List Char} (h : WritesField field line) (bare : IsBareWord field.1)
    (long : ¬IsShort field.2) (ends : EndsLine rest) :
    ∃ digits, 4300 < digits ∧
      statement document (line ++ rest) = .error (.integerTooLong digits) := by
  obtain ⟨text, written, rfl⟩ := h
  obtain ⟨c, more, hname, hc⟩ := bare.exists_cons
  obtain ⟨digits, hdigits, read⟩ := value_writes_long written long ends
  obtain ⟨first, inner, rfl, hfirst⟩ := written.exists_cons_not_space
  have failed := assignment_bare bare hfirst document (inner ++ rest)
  rw [List.cons_append] at read
  rw [read] at failed
  refine ⟨digits, hdigits, ?_⟩
  rw [List.append_assoc]
  rw [hname, List.cons_append] at failed ⊢
  rw [statement_bare hc]
  exact congrArg (· >>= _) failed

/-! ### Whole sections -/

/-- A line without a part of a line end is left as it is when line ends are unified, and the rest
is unified by itself. -/
theorem unifyLineEnds_append {line : List Char} (h : '\r' ∉ line) (rest : List Char) :
    unifyLineEnds (line ++ rest) = line ++ unifyLineEnds rest := by
  induction line with
  | nil => rfl
  | cons c line ih =>
    rw [List.mem_cons, not_or] at h
    rw [List.cons_append, unifyLineEnds, ih h.2, List.cons_append]
    exact fun _ hc _ => h.1 hc.symm

/-- The statements of a document end with an error at the first one that cannot be read.
-/
theorem statements_error {document : Document} {c : Char} {input : List Char} {error : Error}
    (hc : isSpace c = false) (failed : statement document (c :: input) = .error error) :
    statements document (c :: input) = .error error := by
  rw [statements]
  split
  · next hdrop =>
    rw [dropSpaces_cons hc] at hdrop
    cases hdrop
  · next d others hdrop =>
    rw [dropSpaces_cons hc] at hdrop
    cases hdrop
    rw [failed]
    rfl

/-- The reader takes one statement and goes on behind the end of its line. -/
theorem statements_step {document next : Document} {line : List Char}
    (h : IsStatement document line next) (ends : EndsLine rest) :
    statements document (line ++ rest) = statements next (rest.drop 1) := by
  obtain ⟨c, more, rfl, hc⟩ := h.start
  have read := h.read rest ends
  -- The line is not empty, so the recursion gets a shorter rest.
  have shorter : (rest.drop 1).length < ((c :: more) ++ rest).length := by
    rw [List.length_append, List.length_cons, List.length_drop]
    omega
  rw [List.cons_append] at read shorter ⊢
  rw [statements]
  split
  · next hdrop =>
    rw [dropSpaces_cons hc] at hdrop
    cases hdrop
  · next d others hdrop =>
    rw [dropSpaces_cons hc] at hdrop
    cases hdrop
    rw [advancing_ok read shorter]

/-- The first of some lines stands in front of its line end and the others, and once line ends are
unified all of them are newlines. -/
theorem JoinsLines.exists_unified {line text : List Char} {lines : List (List Char)}
    (joins : JoinsLines (line :: lines) text) (noReturn : '\r' ∉ line) :
    ∃ rest others, JoinsLines lines others ∧ EndsLine rest ∧
      unifyLineEnds text = line ++ rest ∧ rest.drop 1 = unifyLineEnds others := by
  cases joins with
  | last =>
    have unified := unifyLineEnds_append noReturn []
    rw [List.append_nil] at unified
    exact ⟨[], [], .nil, by simp [EndsLine], unified, rfl⟩
  | @cons _ newline others _ hnewline joins =>
    refine ⟨'\n' :: unifyLineEnds others, others, joins, by simp [EndsLine], ?_, rfl⟩
    rw [unifyLineEnds_append noReturn]
    simp only [newlines, List.mem_cons, List.not_mem_nil, or_false] at hnewline
    rcases hnewline with rfl | rfl <;> rfl

/-- The reader takes the first of some lines, whatever its line end, and goes on with the
others. -/
theorem statements_cons {document next : Document} {line text : List Char}
    {lines : List (List Char)} (h : IsStatement document line next)
    (joins : JoinsLines (line :: lines) text) :
    ∃ others, JoinsLines lines others ∧
      statements document (unifyLineEnds text) = statements next (unifyLineEnds others) := by
  obtain ⟨rest, others, joinsOthers, ends, unified, hrest⟩ := joins.exists_unified h.noReturn
  exact ⟨others, joinsOthers, by rw [unified, statements_step h ends, hrest]⟩

/-- If no name occurs twice, the next name is new, so it can be added to the fields that are
there. -/
theorem new_of_nodup {done fields : List (String × Value)} {field : String × Value}
    (nodup : ((done ++ field :: fields).map Prod.fst).Nodup) : field.1 ∉ done.map Prod.fst := by
  intro h
  rw [List.map_append, List.nodup_append] at nodup
  exact nodup.2.2 _ h _ (List.mem_cons_self ..) rfl

/-- The reader adds the fields of all lines to those that it has, in order. The induction is on
the lines. -/
theorem statements_fields {name : String} {fields : List (String × Value)}
    {lines : List (List Char)} (h : List.Forall₂ ReadsField fields lines)
    {done : List (String × Value)} (nodup : ((done ++ fields).map Prod.fst).Nodup)
    {text : List Char} (joins : JoinsLines lines text) :
    statements (sectionDocument name done) (unifyLineEnds text) =
      .ok (sectionDocument name (done ++ fields)) := by
  induction h generalizing done text with
  | nil =>
    cases joins
    rw [unifyLineEnds, statements, List.append_nil]
    rfl
  | @cons field line fields lines hfield _ ih =>
    obtain ⟨others, joinsOthers, step⟩ :=
      statements_cons (isStatement_field hfield (new_of_nodup nodup)) joins
    rw [step, ih _ joinsOthers, List.append_assoc]
    · rfl
    · rwa [List.append_assoc]

/-- The reader fails at the first field that has too many digits, whatever comes behind it. -/
theorem statements_fields_long {name : String} {fields : List (String × Value)}
    {lines : List (List Char)} (h : List.Forall₂ WritesField fields lines)
    (bare : ∀ field ∈ fields, IsBareWord field.1) (long : ∃ field ∈ fields, ¬IsShort field.2)
    {done : List (String × Value)} (nodup : ((done ++ fields).map Prod.fst).Nodup)
    {text : List Char} (joins : JoinsLines lines text) :
    ∃ digits, 4300 < digits ∧
      statements (sectionDocument name done) (unifyLineEnds text) =
        .error (.integerTooLong digits) := by
  induction h generalizing done text with
  | nil =>
    obtain ⟨field, hfield, -⟩ := long
    cases hfield
  | @cons field line fields lines hfield _ ih =>
    obtain ⟨bareField, bareOthers⟩ := List.forall_mem_cons.mp bare
    -- A field that can be read is taken off, and the reader stops at any other one.
    by_cases shortField : IsShort field.2
    · obtain ⟨others, joinsOthers, step⟩ :=
        statements_cons
          (isStatement_field (hfield.readsField bareField shortField) (new_of_nodup nodup)) joins
      have longOthers : ∃ field ∈ fields, ¬IsShort field.2 := by
        obtain ⟨other, hother, hlong⟩ := long
        rcases List.mem_cons.mp hother with rfl | hother
        · exact absurd shortField hlong
        · exact ⟨other, hother, hlong⟩
      rw [step]
      exact ih bareOthers longOthers (by rwa [List.append_assoc]) joinsOthers
    · obtain ⟨rest, others, -, ends, unified, -⟩ :=
        joins.exists_unified (hfield.noReturn bareField)
      obtain ⟨digits, hdigits, failed⟩ :=
        statement_field_long (sectionDocument name done) hfield bareField shortField ends
      obtain ⟨c, more, rfl, hc⟩ := hfield.exists_cons bareField
      exact ⟨digits, hdigits, by rw [unified]; exact statements_error hc failed⟩

/-- A section of fields that are read as their values is read, however its lines are ended. -/
theorem read_section {name : String} (bareName : IsBareWord name)
    {fields : List (String × Value)} {lines : List (List Char)}
    (h : List.Forall₂ ReadsField fields lines) (nodup : (fields.map Prod.fst).Nodup)
    {document : String}
    (joins : JoinsLines (('[' :: (name.toList ++ [']'])) :: lines) document.toList) :
    read document = .ok [(name, .table fields)] := by
  obtain ⟨others, joinsOthers, step⟩ := statements_cons (isStatement_header bareName) joins
  have nodupAll : (([] ++ fields).map Prod.fst).Nodup := nodup
  rw [read, step, statements_fields h nodupAll joinsOthers]
  show Except.ok (finishAll (sectionDocument name fields).entries) = _
  rw [sectionDocument, finishAll, finishAll, Entry.finish, finishAll_finished]

/-- A written section is read back as its fields, in the order of the lines and whatever way it
was written. -/
theorem read_writesSection {name : String} (bareName : IsBareWord name)
    {fields : List (String × Value)} (bare : ∀ field ∈ fields, IsBareWord field.1)
    (short : ∀ field ∈ fields, IsShort field.2) (nodup : (fields.map Prod.fst).Nodup)
    {document : String} (h : WritesSection name fields document) :
    read document = .ok [(name, .table fields)] := by
  obtain ⟨lines, hlines, joins⟩ := h
  have reads : List.Forall₂ ReadsField fields lines := by
    clear nodup joins
    induction hlines with
    | nil => exact .nil
    | cons hfield _ ih =>
      obtain ⟨bareField, bareOthers⟩ := List.forall_mem_cons.mp bare
      obtain ⟨shortField, shortOthers⟩ := List.forall_mem_cons.mp short
      exact .cons (hfield.readsField bareField shortField) (ih bareOthers shortOthers)
  exact read_section bareName reads nodup joins

/-! ### Integers in base sixteen -/

/-- An integer in base sixteen is read as its value, however many digits it has: only
decimal integers have a bound on their digits. -/
theorem readsAs_hexadecimal {digits : List Char} (hdigits : ∀ c ∈ digits, isDigitOf 16 c = true)
    (nonempty : digits ≠ []) :
    ReadsAs (.integer (natOfDigits 16 digits)) ('0' :: 'x' :: digits) where
  noReturn := by
    have noDigit : '\r' ∉ digits := fun h => absurd (hdigits _ h) (by decide)
    simp [noDigit]
  start := ⟨_, _, rfl, by decide⟩
  read rest ends := by
    obtain ⟨first, others, rfl⟩ := List.exists_cons_of_ne_nil nonempty
    obtain ⟨hfirst, hothers⟩ := List.forall_mem_cons.mp hdigits
    have run : digits? (isDigitOf 16) (first :: (others ++ rest)) =
        some (first :: others, rest) := by
      rw [digits?, if_pos hfirst, moreDigits_append rfl rfl hothers ends]
    -- The letter behind the zero keeps the digits from being read as a date or a time.
    have noMoment : moment? ('0' :: 'x' :: first :: (others ++ rest)) = none := rfl
    have marked : number ('0' :: 'x' :: first :: (others ++ rest)) =
        .ok (.integer (natOfDigits 16 (first :: others)), rest) := by
      rw [number, markedInteger?, basedInteger?, run]
      rfl
    have scalar : scalar ('0' :: 'x' :: first :: (others ++ rest)) =
        .ok (.integer (natOfDigits 16 (first :: others)), rest) := by
      rw [Toml.scalar, word?_eq_none rfl, noMoment, marked]
      all_goals simp
    have shorter : rest.length < ('0' :: 'x' :: first :: (others ++ rest)).length := by
      simp only [List.length_cons, List.length_append]
      omega
    refine ⟨shorter, ?_⟩
    rw [← advancing_ok scalar shorter]
    exact value_eq_scalar (by decide) (by decide) _

/-- A section with too many digits in one of its fields is not read back, and the error says how
many digits there are. -/
theorem read_writesSection_long {name : String} (bareName : IsBareWord name)
    {fields : List (String × Value)} (bare : ∀ field ∈ fields, IsBareWord field.1)
    (long : ∃ field ∈ fields, ¬IsShort field.2) (nodup : (fields.map Prod.fst).Nodup)
    {document : String} (h : WritesSection name fields document) :
    ∃ digits, 4300 < digits ∧ read document = .error (.integerTooLong digits) := by
  obtain ⟨lines, hlines, joins⟩ := h
  obtain ⟨others, joinsOthers, step⟩ := statements_cons (isStatement_header bareName) joins
  have nodupAll : (([] ++ fields).map Prod.fst).Nodup := nodup
  obtain ⟨digits, hdigits, failed⟩ :=
    statements_fields_long hlines bare long nodupAll joinsOthers
  exact ⟨digits, hdigits, by rw [read, step, failed]; rfl⟩

end Calculator.Toml
