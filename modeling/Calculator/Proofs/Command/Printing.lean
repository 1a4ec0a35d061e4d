import Calculator.Command
import Calculator.Proofs.Cursor.Complaints
import Calculator.Proofs.Expr.Lines
import Calculator.Proofs.Token.Payload

/-!
# `Calculator.Proofs.Command.Printing`: what the console shows as it is

A console is known to show plain texts as they are, and most of what the commands print
is plain. The words of the program have at most one colon, and a picture takes two of
them, so only a text that quotes the line can be shown in another way. If the line is
plain, such a text is plain too.

* `IsPlain.steady_append`, `IsPlain.append_steady`, `IsPlain.append_blank`: how a plain
  text is put together.
* `Console.shown_drawn`, `Console.shown_integer`, `Console.shown_divisionByZero`: drawings,
  values and reports of divisions by zero are shown as they are, whatever the line is.
* `cases_of_mem_diagnostics`: a diagnostic quotes the line or one of its characters, or it
  quotes nothing of the line.
* `Console.isPlain_message`: the messages for a plain line are plain.
* `Command.printed_of_isPlain`: plain messages are printed as they are.
-/

set_option autoImplicit false

namespace Calculator

open Text

/-! ### Plain lines -/

/-- Whether a text has neither control characters nor colons, so that it can stand on
either side of a plain line. -/
def IsSteady (text : List Char) : Prop :=
  ∀ c ∈ text, isControl c = false ∧ c ≠ ':'

instance (text : List Char) : Decidable (IsSteady text) :=
  inferInstanceAs (Decidable (∀ c ∈ text, _))

/-- Steady texts are put together to steady texts, as the condition is one on single
characters. -/
theorem IsSteady.append {front behind : List Char} (hfront : IsSteady front)
    (hbehind : IsSteady behind) : IsSteady (front ++ behind) :=
  List.forall_mem_append.mpr ⟨hfront, hbehind⟩

/-- A string is steady if its characters are. For a string that is written out, its
characters are at hand, which saves decoding the string to decide this. -/
theorem IsSteady.ofList {chars : List Char} (h : IsSteady chars) :
    IsSteady (String.ofList chars).toList := by
  rwa [String.toList_ofList]

/-- No colon of a text is in a steady front of it, so a picture starts behind that front if it
starts anywhere. -/
theorem IsSteady.exists_of_front {front rest before behind : List Char} (steady : IsSteady front)
    (h : front ++ rest = before ++ ':' :: behind) : ∃ between, rest = between ++ ':' :: behind := by
  rcases List.append_eq_append_iff.mp h with ⟨between, -, hrest⟩ | ⟨between, hfront, hbehind⟩
  · exact ⟨between, hrest⟩
  · cases between with
    | nil => exact ⟨[], hbehind.symm⟩
    | cons c between =>
      obtain rfl := (List.cons.inj hbehind).1
      exact absurd rfl (steady ':' (by simp [hfront])).2

/-- No colon of a text is in a steady end of it, so a picture ends before that end if it ends
anywhere. -/
theorem IsSteady.exists_of_behind {line rest before behind : List Char} (steady : IsSteady rest)
    (h : line ++ rest = before ++ ':' :: behind) : ∃ between, line = before ++ ':' :: between := by
  rcases List.append_eq_append_iff.mp h with ⟨between, -, hrest⟩ | ⟨between, hline, hbehind⟩
  · exact absurd rfl (steady ':' (by simp [hrest])).2
  · cases between with
    | nil => exact absurd rfl (steady ':' (by simp [← show _ = rest from hbehind])).2
    | cons c between =>
      obtain rfl := (List.cons.inj hbehind).1
      exact ⟨between, hline⟩

namespace IsPlain

variable {isPicture : List Char → Prop} {front line behind : List Char}

/-- A text with a single colon or none is plain if it has no control characters, as a picture
takes two colons. -/
theorem of_count (noControl : ∀ c ∈ line, isControl c = false) (h : line.count ':' ≤ 1) :
    IsPlain isPicture line where
  noControl := noControl
  noPicture before name behind hline := by
    have two : 1 < line.count ':' := by
      simp only [hline, List.count_append, List.count_cons_self]
      omega
    exact absurd h (Nat.not_le.mpr two)

/-- A string is plain if its characters have a single colon or none. This is how the words of the
program are checked. -/
theorem ofList_of_count (noControl : ∀ c ∈ line, isControl c = false) (h : line.count ':' ≤ 1) :
    IsPlain isPicture (String.ofList line).toList := by
  rw [String.toList_ofList]
  exact of_count noControl h

/-- A steady text is plain, whatever the names of pictures are. -/
theorem of_steady (h : IsSteady line) : IsPlain isPicture line :=
  of_count (fun c hc => (h c hc).1) <| by
    rw [List.count_eq_zero.mpr fun hc => (h ':' hc).2 rfl]
    exact Nat.zero_le 1

/-- A plain text stays plain with a steady one in front, as no picture starts there. -/
theorem steady_append {front text : String} (hfront : IsSteady front.toList)
    (htext : IsPlain isPicture text.toList) : IsPlain isPicture (front ++ text).toList := by
  rw [String.toList_append]
  refine ⟨List.forall_mem_append.mpr ⟨fun c h => (hfront c h).1, htext.noControl⟩,
    fun before name behind h => ?_⟩
  obtain ⟨between, hbetween⟩ := hfront.exists_of_front h
  exact htext.noPicture between name behind hbetween

/-- A plain text stays plain with a steady one behind it, as no picture ends in a text without
colons. -/
theorem append_steady {text behind : String} (htext : IsPlain isPicture text.toList)
    (hbehind : IsSteady behind.toList) : IsPlain isPicture (text ++ behind).toList := by
  rw [String.toList_append]
  refine ⟨List.forall_mem_append.mpr ⟨htext.noControl, fun c h => (hbehind c h).1⟩,
    fun before name rest h => ?_⟩
  rw [← List.cons_append, ← List.append_assoc] at h
  obtain ⟨between, hbetween⟩ := hbehind.exists_of_behind h
  rw [List.append_assoc, List.cons_append] at hbetween
  exact htext.noPicture before name between hbetween

/-- Plain texts stay plain with a blank between them, if no picture has a blank in its
name. -/
theorem append_blank (noBlank : ∀ name, isPicture name → ∀ c ∈ name, isBlank c = false)
    (hfront : IsPlain isPicture front) (hbehind : IsPlain isPicture behind) :
    IsPlain isPicture (front ++ ' ' :: behind) where
  noControl := List.forall_mem_append.mpr
    ⟨hfront.noControl, List.forall_mem_cons.mpr ⟨by decide, hbehind.noControl⟩⟩
  noPicture before name rest h picture := by
    -- The blank stands behind both colons, in front of both, or between them.
    rcases List.append_eq_append_iff.mp h with ⟨between, -, hbetween⟩ | ⟨between, hbefore, hname⟩
    · cases between with
      | nil => cases hbetween
      | cons c between => exact hbehind.noPicture _ _ _ (List.cons.inj hbetween).2 picture
    · cases between with
      | nil => cases hname
      | cons c between =>
        rw [List.cons_append, List.cons.injEq] at hname
        obtain ⟨rfl, hname⟩ := hname
        rcases List.append_eq_append_iff.mp hname with
          ⟨inside, hinside, hrest⟩ | ⟨inside, hinside, hrest⟩
        · cases inside with
          | nil => cases hrest
          | cons c inside =>
            obtain ⟨rfl, -⟩ := List.cons.inj hrest
            exact hfront.noPicture before name inside (by rw [hbefore, hinside]) picture
        · cases inside with
          | nil => cases hrest
          | cons c inside =>
            obtain ⟨rfl, -⟩ := List.cons.inj hrest
            exact absurd (noBlank name picture ' ' (by simp [hinside])) (by decide)

end IsPlain

/-! ### The characters of drawings and of values -/

/-- What a label is made of is neither a control character nor a colon, and no blank
other than the usual one. -/
theorem Place.steady_of_isLabelChar {c : Char} (h : isLabelChar c = true) :
    isControl c = false ∧ c ≠ ':' ∧ (c ≠ ' ' → isBlank c = false) := by
  simp only [isLabelChar, Bool.or_eq_true, beq_iff_eq] at h
  rcases h with (h | rfl) | rfl
  · -- Letters and digits are told from colons and control characters by their codes.
    have range : 48 ≤ c.toNat ∧ c.toNat ≤ 57 ∨ 65 ≤ c.toNat ∧ c.toNat ≤ 122 := by
      delta Char.isAlphanum Char.isAlpha Char.isUpper Char.isLower Char.isDigit at h
      simp [UInt32.le_iff_toNat_le] at h
      omega
    have noColon : c ≠ ':' := by
      rintro rfl
      exact absurd range (by decide)
    have noControl : isControl c = false := by
      simp [isControl]
      omega
    have noBlank : isBlank c = false := by
      simp [isBlank, blankRanges]
      omega
    exact ⟨noControl, noColon, fun _ => noBlank⟩
  · decide
  · decide

/-- The text of an integer has label characters only, and no blank, as it has digits and a sign at
most. -/
theorem Place.isLabelChar_of_mem_repr {value : Int} {c : Char} (h : c ∈ value.repr.toList) :
    isLabelChar c = true ∧ c ≠ ' ' := by
  rcases isDigit_or_eq_minus_of_mem_repr h with digit | rfl
  · refine ⟨by simp [isLabelChar, Char.isAlphanum, digit], ?_⟩
    rintro rfl
    cases digit
  · decide

/-- The text of an integer is steady, so a value can stand on either side of a plain text. -/
theorem isSteady_repr (value : Int) : IsSteady value.repr.toList := fun _ h =>
  have steady := Place.steady_of_isLabelChar (Place.isLabelChar_of_mem_repr h).1
  ⟨steady.1, steady.2.1⟩

/-- The text of an integer has at least one character, so a text that ends with it does not end in
a blank. -/
theorem toList_repr_ne_nil (value : Int) : value.repr.toList ≠ [] := by
  rw [Int.repr_eq_if]
  split <;> simp

/-- The text of an integer has no blanks, neither inside nor at its end. -/
theorem isBlank_of_mem_repr {value : Int} {c : Char} (h : c ∈ value.repr.toList) :
    isBlank c = false :=
  have label := Place.isLabelChar_of_mem_repr h
  (Place.steady_of_isLabelChar label.1).2.2 label.2

/-- The name of a kind is steady, so messages that name two kinds have no other colon than their
own. -/
theorem Kind.isSteady_name (kind : Kind) : IsSteady kind.name.toList := by
  cases kind <;> exact .ofList (by decide)

/-- A line of a drawing is steady: its branches, its blanks, the name and the value. -/
theorem Place.isSteady_line (place : Place) : IsSteady place.line.toList := by
  have label : IsSteady place.label := fun _ h =>
    have steady := steady_of_isLabelChar (isLabelChar_of_mem_label h)
    ⟨steady.1, steady.2.1⟩
  have indent : IsSteady (place.ancestors.flatMap fun isLast =>
      [if isLast then ' ' else '│', ' ', ' ']) := by
    refine List.forall_mem_flatMap.mpr fun isLast _ => ?_
    cases isLast <;> decide
  have marker : IsSteady [if place.isLast then '└' else '├', '─', '─'] := by
    cases place.isLast <;> decide
  rw [toList_line]
  exact indent.append (marker.append label)

/-- A line of a drawing ends in a name or in a number, which have no blanks, so no blank at its
end can get lost. -/
theorem Place.exists_suffix_line (place : Place) :
    ∃ behind, behind <:+ place.line.toList ∧ behind ≠ [] ∧ ∀ c ∈ behind, isBlank c = false := by
  have inLine : place.label <:+ place.line.toList := by
    rw [toList_line]
    exact List.suffix_append_of_suffix (List.suffix_append [_, '─', '─'] place.label)
  -- A node without a value ends in the name of its kind, any other one in its value.
  cases hvalue : place.node.value? with
  | none =>
    have label : place.label = place.node.kind.name.toList := by
      rw [Place.label, Node.toList_shownValue, hvalue]
      exact List.append_nil _
    refine ⟨_, label ▸ inLine, ?_, ?_⟩ <;> cases place.node.kind <;>
      (rw [Kind.name, String.toList_ofList]; decide)
  | some value =>
    have inLabel : value.repr.toList <:+ place.label := by
      rw [Place.label, Node.toList_shownValue, hvalue]
      exact List.suffix_append_of_suffix (List.suffix_cons ' ' _)
    exact ⟨_, inLabel.trans inLine, toList_repr_ne_nil value, fun c => isBlank_of_mem_repr⟩

/-! ### Texts that are shown as they are -/

namespace Console

variable (console : Console) {text : String}

/-- Whether a text is one that a console is known to show as it is: it is plain, and it
does not end in a blank. -/
def Keeps (text : String) : Prop :=
  IsPlain console.isPicture text.toList ∧ ∀ c ∈ text.toList.getLast?, isBlank c = false

/-- A plain text is kept if something stands at its end that does not end in a blank. -/
theorem keeps_of_suffix {behind : List Char} (plain : IsPlain console.isPicture text.toList)
    (h : behind <:+ text.toList) (hne : behind ≠ [])
    (noBlank : ∀ c ∈ behind.getLast?, isBlank c = false) : console.Keeps text := by
  refine ⟨plain, fun c hc => noBlank c ?_⟩
  obtain ⟨front, hfront⟩ := h
  rwa [← hfront, List.getLast?_append_of_ne_nil front hne] at hc

/-- Lines that are kept are shown as they are, all in one text. This is the law of the console. -/
theorem shown_intercalate {lines : List String} (h : ∀ line ∈ lines, console.Keeps line) :
    console.shown ("\n".intercalate lines) = "\n".intercalate lines :=
  console.shown_lines lines h

/-- A text that is kept is shown as it is, which is the law of the console for one line. -/
theorem shown_of_keeps (h : console.Keeps text) : console.shown text = text := by
  have shown := console.shown_intercalate (List.forall_mem_singleton.mpr h)
  rwa [String.intercalate_singleton] at shown

/-- The lines of a drawing are kept, whatever tree is drawn. -/
theorem keeps_line (place : Place) : console.Keeps place.line := by
  obtain ⟨behind, h, hne, noBlank⟩ := place.exists_suffix_line
  exact console.keeps_of_suffix (.of_steady place.isSteady_line) h hne fun c hc =>
    noBlank c (List.mem_of_getLast? hc)

/-- Drawings are shown as they are, on every console and for every tree, as all their lines are
kept. -/
theorem shown_drawn (node : Node) : console.shown node.drawn = node.drawn := by
  rw [Node.drawn, Node.drawing_eq_map_line]
  exact console.shown_intercalate (List.forall_mem_map.mpr fun place _ => console.keeps_line place)

/-- Integers are shown as they are, on every console, so the result of a line is what is read off
the screen. -/
theorem shown_integer (value : Int) : console.shown (toString value) = toString value :=
  console.shown_of_keeps (console.keeps_of_suffix (.of_steady (isSteady_repr value))
    List.suffix_rfl (toList_repr_ne_nil value) fun _ h =>
      isBlank_of_mem_repr (List.mem_of_getLast? h))

/-- A text that is put together is kept if it is plain and its last part does not end in a
blank. -/
theorem keeps_append {front : String} {behind : List Char}
    (plain : IsPlain console.isPicture (front ++ String.ofList behind).toList) (hne : behind ≠ [])
    (noBlank : ∀ c ∈ behind.getLast?, isBlank c = false) :
    console.Keeps (front ++ String.ofList behind) := by
  refine console.keeps_of_suffix plain ?_ hne noBlank
  rw [String.toList_append, String.toList_ofList]
  exact List.suffix_append _ _

/-- The report of a division by zero is shown as it is, as it quotes nothing of the line but a
position. -/
theorem shown_divisionByZero (position : Nat) :
    let report := "Evaluation error: " ++ (Fault.divisionByZero position).failure.message
    console.shown report = report := by
  intro report
  have text : report = "Evaluation error: " ++ "Division by zero" ++ " (at position " ++
      (position : Int).repr ++ ")" := by
    simp only [String.append_assoc]
    rfl
  -- The only colon of the report stands before a blank, so it starts no name of a picture.
  have words : IsPlain console.isPicture "Evaluation error: ".toList :=
    .ofList_of_count (by decide) (by decide)
  have front : IsPlain console.isPicture
      ("Evaluation error: " ++ "Division by zero" ++ " (at position ").toList :=
    (words.append_steady (.ofList (by decide))).append_steady (.ofList (by decide))
  rw [text]
  exact console.shown_of_keeps (console.keeps_append
    ((front.append_steady (isSteady_repr _)).append_steady (.ofList (by decide)))
    (by decide) (by decide))

end Console

/-! ### Diagnostics -/

/-- A diagnostic of a line is about one of its characters or about the line itself, or
it names kinds of tokens or the limit on groups. -/
theorem cases_of_mem_diagnostics {line : String} {largest maxDepth : Int} {diagnostic : Diagnostic}
    (h : diagnostic ∈ (parse line largest maxDepth).diagnostics) :
    (∃ c ∈ line.toList, diagnostic = .badCharacter c) ∨ diagnostic = .invalidNumber line ∨
      (∃ found expected, diagnostic = .unexpectedToken found expected) ∨
      diagnostic = .tooDeep maxDepth := by
  obtain ⟨tokens, onLine⟩ := Cursor.onLine_ofLine line largest maxDepth
  obtain ⟨complaints, hdiagnostics, reports⟩ := onLine.reports_parse
  have split : (parse line largest maxDepth).diagnostics =
      (Token.Stream.ofLine line largest).drain.2.diagnostics ++ complaints := hdiagnostics
  rw [split, diagnostics_drain] at h
  rcases List.mem_append.mp h with ofToken | ofReading
  · obtain ⟨token, htoken, complaint⟩ := List.mem_filterMap.mp ofToken
    unfold Token.complaint? at complaint
    split at complaint
    · obtain ⟨c, hc, rfl⟩ := Option.map_eq_some_iff.mp complaint
      have texts := (Lexeme.scans_readAll line largest 0 line.toList).segmentation.texts
      exact Or.inl ⟨c, texts ▸ List.mem_flatMap.mpr ⟨token, htoken, List.mem_of_head? hc⟩, rfl⟩
    · exact Or.inr (Or.inl (Option.some.inj complaint).symm)
    · cases complaint
  · -- Each complaint is about one of the made-up tokens.
    obtain ⟨place, inside, rfl⟩ := List.mem_iff_getElem.mp ofReading
    obtain ⟨found, -, -, -, complaint⟩ := reports.get (reports.length_eq ▸ inside) inside
    refine Or.inr (Or.inr ?_)
    split at complaint
    · exact Or.inr complaint
    · exact Or.inl ⟨_, _, complaint⟩

namespace Console

variable (console : Console)

/-- The messages for a plain line are plain. Most of them quote nothing, and those that quote a
character have a blank between it and their own colon. -/
theorem isPlain_message {line : String} (plain : IsPlain console.isPicture line.toList)
    {largest maxDepth : Int} {diagnostic : Diagnostic}
    (h : diagnostic ∈ (parse line largest maxDepth).diagnostics) :
    IsPlain console.isPicture diagnostic.message.toList := by
  rcases cases_of_mem_diagnostics h with ⟨c, hc, rfl⟩ | rfl | ⟨found, expected, rfl⟩ | rfl
  · -- The character may be a colon too, but there is a blank between the two.
    have quoted : IsPlain console.isPicture
        ("Bad character input->  `" ++ String.singleton c ++ "`").toList := by
      refine .append_steady (.steady_append (.ofList (by decide)) ?_) (.ofList (by decide))
      rw [String.toList_singleton]
      refine .of_count (List.forall_mem_singleton.mpr (plain.noControl c hc)) ?_
      exact List.count_le_length
    have words : IsPlain console.isPicture "Error:".toList :=
      .ofList_of_count (by decide) (by decide)
    have text : (Diagnostic.badCharacter c).message =
        "Error:" ++ (" " ++ ("Bad character input->  `" ++ String.singleton c ++ "`")) := by
      simp only [← String.append_assoc]
      rfl
    rw [text, String.toList_append, String.toList_append]
    exact .append_blank console.noBlank words quoted
  · exact (plain.steady_append (.ofList (by decide))).append_steady (.ofList (by decide))
  · have words : IsPlain console.isPicture "Error: Unexpected token <".toList :=
      .ofList_of_count (by decide) (by decide)
    exact (((words.append_steady found.isSteady_name).append_steady
      (.ofList (by decide))).append_steady expected.isSteady_name).append_steady
        (.ofList (by decide))
  · have words : IsPlain console.isPicture
        "Error: Parentheses nested deeper than ".toList :=
      .ofList_of_count (by decide) (by decide)
    exact (words.append_steady (isSteady_repr _)).append_steady (.ofList (by decide))

/-- A plain message is kept, as each message ends in a mark or in a number and not in a blank. -/
theorem keeps_message {diagnostic : Diagnostic}
    (plain : IsPlain console.isPicture diagnostic.message.toList) :
    console.Keeps diagnostic.message := by
  cases diagnostic <;> exact console.keeps_append plain (by decide) (by decide)

end Console

namespace Command

/-- Plain messages are printed as they are, so every console prints what the plain one prints. -/
theorem printed_of_isPlain (console : Console) {diagnostics : List Diagnostic}
    (plain : ∀ diagnostic ∈ diagnostics,
      IsPlain console.isPicture diagnostic.message.toList) :
    printed console (diagnostics.map Diagnostic.message) =
      printed .plain (diagnostics.map Diagnostic.message) := by
  refine congrArg String.join ?_
  rw [List.map_map, List.map_map]
  refine List.map_congr_left fun diagnostic h => ?_
  have shown := console.shown_of_keeps (console.keeps_message (plain diagnostic h))
  rw [Function.comp, Function.comp, shown]
  rfl

end Command

end Calculator
