import Calculator.Proofs.Toml.Sound
import Calculator.Proofs.Toml.Value

/-!
# `Calculator.Proofs.Toml.Failure`: why a document cannot be read

A document that breaks the rules of the format is malformed. Apart from that, reading
fails for one reason only: somewhere in the document stand more decimal digits than an
integer may have.

* `exists_run_of_digits?`: digits that are taken stand in the input.
* `sound_decimal`: so they are there if a number has too many of them.
* `sound_value`: arrays and inline tables hold other values, so this is by induction on
  the length of the input.
* `sound_statements`: a document is read statement by statement.

`explains_of_read` says what this means for whole documents, whose line ends are
unified before they are read.
-/

set_option autoImplicit false

namespace Calculator.Toml

open Data

/-! ### Numbers -/

/-- The digits that are taken behind a digit make up a run with it, in which as many digits are
counted as were taken. The recursion passes over single underscores. -/
theorem exists_run (isDigit : Char → Bool) (input : List Char) :
    ∃ run, input = run ++ (moreDigits isDigit input).2 ∧
      ∀ c, isDigit c = true →
        IsRun isDigit ((moreDigits isDigit input).1.length + 1) (c :: run) := by
  fun_induction moreDigits isDigit input with
  | case1 d rest hd more ih =>
    obtain ⟨run, hrun, isRun⟩ := ih
    exact ⟨'_' :: d :: run, congrArg (fun rest => '_' :: d :: rest) hrun,
      fun c hc => .underscore hc (isRun d hd)⟩
  | case3 d rest _ hd more ih =>
    obtain ⟨run, hrun, isRun⟩ := ih
    exact ⟨d :: run, congrArg (d :: ·) hrun, fun c hc => .cons hc (isRun d hd)⟩
  | case2 | case4 | case5 => exact ⟨[], rfl, fun c hc => .digit hc⟩

/-- Digits that are taken are a run at the front of the input, and all of them are counted. -/
theorem exists_run_of_digits? {isDigit : Char → Bool} {input digits rest : List Char}
    (h : digits? isDigit input = some (digits, rest)) :
    ∃ run, input = run ++ rest ∧ IsRun isDigit digits.length run := by
  unfold digits? at h
  split at h
  · next c behind =>
    split at h
    · next hc =>
      cases h
      obtain ⟨run, hrun, isRun⟩ := exists_run isDigit behind
      exact ⟨c :: run, congrArg (c :: ·) hrun, isRun c hc⟩
    · cases h
  · cases h

/-- What stands behind digits is an end of the input, as they are taken off the front. -/
theorem suffix_of_digits? {isDigit : Char → Bool} {input digits rest : List Char}
    (h : digits? isDigit input = some (digits, rest)) : rest <:+ input := by
  obtain ⟨run, rfl, -⟩ := exists_run_of_digits? h
  exact List.suffix_append run rest

/-- The whole part of a number is a run at the front of the input, or a single zero, which is a
run too. -/
theorem exists_run_of_wholePart? {input digits rest : List Char}
    (h : wholePart? input = some (digits, rest)) :
    ∃ run, input = run ++ rest ∧ IsRun isDecimal digits.length run := by
  unfold wholePart? at h
  split at h
  · cases h
    exact ⟨['0'], rfl, .digit rfl⟩
  · exact exists_run_of_digits? h

/-- What stands behind a sign is an end of the input. -/
theorem sign_suffix (input : List Char) : (sign input).2 <:+ input := by
  unfold sign
  split
  · exact List.suffix_cons ..
  · exact List.suffix_cons ..
  · exact List.suffix_rfl

/-- What stands behind a fraction is an end of the input. -/
theorem suffix_of_fraction? {input digits rest : List Char}
    (h : fraction? input = some (digits, rest)) : rest <:+ input := by
  unfold fraction? at h
  split at h
  · exact (suffix_of_digits? h).trans (List.suffix_cons ..)
  · cases h

/-- What stands behind an exponent is an end of the input. -/
theorem suffix_of_exponent? {input rest : List Char} {power : Int}
    (h : exponent? input = some (power, rest)) : rest <:+ input := by
  unfold exponent? at h
  split at h
  · next c behind =>
    split at h
    · obtain ⟨⟨digits, after⟩, read, heq⟩ := Option.map_eq_some_iff.mp h
      cases heq
      exact ((suffix_of_digits? read).trans (sign_suffix behind)).trans (List.suffix_cons ..)
    · cases h
  · cases h

/-- What stands behind an integer in another base is an end of the input. Such an integer may have
any number of digits and never fails for that. -/
theorem suffix_of_markedInteger? {input rest : List Char} {value : Value}
    (h : markedInteger? input = some (value, rest)) : rest <:+ input := by
  have based : ∀ {base : Nat} {mark : Char} {digits : List Char},
      basedInteger? base digits = some (value, rest) → rest <:+ '0' :: mark :: digits := by
    intro base mark digits h
    obtain ⟨⟨run, after⟩, read, heq⟩ := Option.map_eq_some_iff.mp h
    cases heq
    exact (suffix_of_digits? read).trans (List.suffix_append ['0', mark] digits)
  unfold markedInteger? at h
  split at h
  · exact based h
  · exact based h
  · exact based h
  · cases h

/-- If a run has too many digits for an integer, it is the reason for the error, and it stands in
the input. -/
theorem sound_decimalInteger {negative : Bool} {whole run input rest : List Char}
    (hinput : run ++ rest <:+ input) (isRun : IsRun isDecimal whole.length run) :
    Sound Prod.snd input
      ((decimalInteger negative whole).map fun integer => (Value.integer integer, rest)) := by
  unfold decimalInteger
  split
  · next long =>
    exact ⟨long, run, (List.prefix_append run rest).isInfix.trans hinput.isInfix, isRun⟩
  · exact (List.suffix_append run rest).trans hinput

/-- Reading a number in base ten is sound. Only an integer can have too many digits, a number with
a point or an exponent cannot. -/
theorem sound_decimal (input : List Char) : Sound Prod.snd input (decimal input) := by
  unfold decimal
  dsimp only
  split
  · trivial
  · next whole rest read =>
    obtain ⟨run, hrun, isRun⟩ := exists_run_of_wholePart? read
    have unsigned : run ++ rest <:+ input := hrun ▸ sign_suffix input
    have behind : rest <:+ input := (List.suffix_append run rest).trans unsigned
    have fraction : ((fraction? rest).map Prod.snd).getD rest <:+ rest := by
      cases h : fraction? rest with
      | none => exact List.suffix_rfl
      | some read => exact suffix_of_fraction? h
    have exponent : ∀ rest, ((exponent? rest).map Prod.snd).getD rest <:+ rest := fun rest => by
      cases h : exponent? rest with
      | none => exact List.suffix_rfl
      | some read => exact suffix_of_exponent? h
    split
    · exact ((exponent _).trans fraction).trans behind
    · next integer =>
      -- Nothing is taken behind the whole part.
      have alone : fraction? rest = none ∧
          exponent? (((fraction? rest).map Prod.snd).getD rest) = none := by
        simpa using integer
      rw [alone.2, alone.1]
      exact sound_decimalInteger unsigned isRun

/-- Reading a number is sound, whatever its base and its sign. -/
theorem sound_number (input : List Char) : Sound Prod.snd input (number input) := by
  unfold number
  split
  · next read => exact suffix_of_markedInteger? read
  · exact sound_decimal input

/-! ### Moments -/

/-- What stands behind two digits is an end of the input. -/
theorem suffix_of_twoDigits? {least greatest number : Nat} {input rest : List Char}
    (h : twoDigits? least greatest input = some (number, rest)) : rest <:+ input := by
  unfold twoDigits? at h
  split at h
  · next tens ones behind =>
    dsimp only at h
    split at h
    · cases h
      exact List.suffix_append [tens, ones] rest
    · cases h
  · cases h

/-- What stands behind a given character is an end of the input. -/
theorem suffix_of_exactly? {expected : Char} {input rest : List Char}
    (h : exactly? expected input = some rest) : rest <:+ input :=
  eq_cons_of_exactly? h ▸ List.suffix_cons expected rest

/-- What stands behind hours and minutes is an end of the input. -/
theorem suffix_of_clock? {input rest : List Char} (h : clock? input = some rest) :
    rest <:+ input := by
  simp only [clock?, Option.bind_eq_bind, Option.bind_eq_some_iff, Prod.exists, Option.pure_def,
    Option.some.injEq] at h
  obtain ⟨_, _, hours, _, colon, _, _, minutes, rfl⟩ := h
  exact ((suffix_of_twoDigits? minutes).trans (suffix_of_exactly? colon)).trans
    (suffix_of_twoDigits? hours)

/-- What is left without the fraction of a second is an end of the input. -/
theorem dropFraction_suffix (input : List Char) : dropFraction input <:+ input := by
  unfold dropFraction
  split
  · next c rest =>
    split
    · exact (List.dropWhile_suffix _).trans (List.suffix_append ['.', c] rest)
    · exact List.suffix_rfl
  · exact List.suffix_rfl

/-- What stands behind a time of day is an end of the input. -/
theorem suffix_of_time? {input rest : List Char} (h : time? input = some rest) :
    rest <:+ input := by
  simp only [time?, Option.bind_eq_bind, Option.bind_eq_some_iff, Prod.exists, Option.pure_def,
    Option.some.injEq] at h
  obtain ⟨_, minutes, _, colon, _, _, seconds, rfl⟩ := h
  exact (((dropFraction_suffix _).trans (suffix_of_twoDigits? seconds)).trans
    (suffix_of_exactly? colon)).trans (suffix_of_clock? minutes)

/-- What is left without an offset is an end of the input. -/
theorem dropOffset_suffix (input : List Char) : dropOffset input <:+ input := by
  unfold dropOffset
  split
  · next c rest =>
    split
    · exact List.suffix_cons ..
    · split
      · cases h : clock? rest with
        | none => exact List.suffix_rfl
        | some after => exact (suffix_of_clock? h).trans (List.suffix_cons ..)
      · exact List.suffix_rfl
  · exact List.suffix_rfl

/-- What is left without a time is an end of the input. -/
theorem dropTime_suffix (input : List Char) : dropTime input <:+ input := by
  unfold dropTime
  split
  · next c rest =>
    split
    · split
      · next after read =>
        exact ((dropOffset_suffix after).trans (suffix_of_time? read)).trans (List.suffix_cons ..)
      · exact List.suffix_rfl
    · exact List.suffix_rfl
  · exact List.suffix_rfl

/-- What stands behind a date is an end of the input. -/
theorem suffix_of_date? {input rest : List Char} {date : Date}
    (h : date? input = some (date, rest)) : rest <:+ input := by
  simp only [date?, Option.bind_eq_bind, Option.bind_eq_some_iff, Prod.exists, Option.pure_def,
    Option.some.injEq, Prod.mk.injEq] at h
  obtain ⟨_, _, century, _, _, year, _, first, _, _, month, _, second, _, _, day, -, rfl⟩ := h
  exact (suffix_of_twoDigits? day).trans <| (suffix_of_exactly? second).trans <|
    (suffix_of_twoDigits? month).trans <| (suffix_of_exactly? first).trans <|
    (suffix_of_twoDigits? year).trans (suffix_of_twoDigits? century)

/-- Reading a moment is sound: it is malformed or leaves an end of the input, and it is never too
long. -/
theorem sound_moment? {input : List Char} {result : Except Error (List Char)}
    (h : moment? input = some result) : Sound id input result := by
  unfold moment? at h
  split at h
  · next date rest read =>
    cases h
    split
    · exact (dropTime_suffix rest).trans (suffix_of_date? read)
    · trivial
  · obtain ⟨rest, read, rfl⟩ := Option.map_eq_some_iff.mp h
    exact suffix_of_time? read

/-! ### Values -/

/-- What stands behind a word is an end of the input. -/
theorem suffix_of_word? {input rest : List Char} {value : Value}
    (h : word? input = some (value, rest)) : rest <:+ input := by
  obtain ⟨word, -, heq⟩ := Option.map_eq_some_iff.mp h
  cases heq
  exact List.drop_suffix _ _

/-- Reading a value that holds no others is sound, for each sort of value that may start with the
next character. -/
theorem sound_scalar (input : List Char) : Sound Prod.snd input (scalar input) := by
  unfold scalar
  split
  · next rest =>
    exact .mono (.map (sound_basicBlock _) fun _ => rfl)
      (suffix_of_marks (dropFirstNewline_suffix rest))
  · -- The marks that open a text are passed over, and what follows is an end of the input.
    exact .cons (.map (sound_basicLine _) fun _ => rfl)
  · next rest =>
    exact .mono (.map (sound_literalBlock _) fun _ => rfl)
      (suffix_of_marks (dropFirstNewline_suffix rest))
  · exact .cons (.map (sound_literalLine _) fun _ => rfl)
  · split
    · next read => exact suffix_of_word? read
    · split
      · next read => exact (sound_moment? read).map fun _ => rfl
      · exact sound_number input

/-! ### Arrays and inline tables -/

/-- Reading the items of an array is sound, if reading values is, and further items. -/
theorem sound_items_step (input : List Char)
    (hvalue : ∀ inner : List Char, inner.length ≤ input.length →
      Sound Taken.rest inner (value inner))
    (hitems : ∀ inner : List Char, inner.length < input.length →
      Sound Taken.rest inner (items inner)) :
    Sound Taken.rest input (items input) := by
  rw [items]
  split
  · next error failed => exact (sound_dropTrivia input).of_error failed
  · next start hstart =>
    have toStart := (sound_dropTrivia input).of_ok hstart
    split
    · next after hafter =>
      exact (List.suffix_cons ']' after).trans (hafter ▸ toStart)
    · have first := (hvalue start.val start.property).mono toStart
      split
      · next error failed => exact first.of_error failed
      · next taken htaken =>
        have toRest := first.of_ok htaken
        split
        · next error failed => exact ((sound_dropTrivia taken.rest).of_error failed).mono toRest
        · next behind hbehind =>
          have toBehind := ((sound_dropTrivia taken.rest).of_ok hbehind).trans toRest
          split
          · next after hafter => exact (List.suffix_cons ']' after).trans (hafter ▸ toBehind)
          · next after hafter =>
            have toAfter : after <:+ input := (List.suffix_cons ',' after).trans (hafter ▸ toBehind)
            -- Behind a comma the rest is shorter, so further items are covered by the induction.
            have shorter : after.length < input.length := by
              have := length_lt_of_remainder behind hafter
              have := toRest.length_le
              omega
            have others := (hitems after shorter).mono toAfter
            split
            · next error failed => exact others.of_error failed
            · next rest hrest => exact others.of_ok hrest
          · trivial

/-- Reading the fields of an inline table is sound, if reading values is, and further
fields. -/
theorem sound_fields_step (entries : Entries) (input : List Char)
    (hvalue : ∀ inner : List Char, inner.length ≤ input.length →
      Sound Taken.rest inner (value inner))
    (hfields : ∀ (entries : Entries) (inner : List Char), inner.length < input.length →
      Sound Taken.rest inner (fields entries inner)) :
    Sound Taken.rest input (fields entries input) := by
  rw [fields]
  have name := (sound_keyAndSign input).advancing
  split
  · next error failed => exact name.of_error failed
  · next key hkey =>
    have toKey := name.of_ok hkey
    have field := (hvalue key.rest toKey.length_le).mono toKey
    split
    · next error failed => exact field.of_error failed
    · next taken htaken =>
      have toRest := field.of_ok htaken
      split
      · next error failed => exact (sound_assign input _ _ _ _ _).of_error failed
      · next entries _ =>
        split
        · next after hafter => exact (suffix_of_dropSpaces hafter).trans toRest
        · next after hafter =>
          have toAfter : dropSpaces after <:+ input :=
            ((dropSpaces_suffix after).trans (suffix_of_dropSpaces hafter)).trans toRest
          -- Behind a comma the rest is shorter, so further fields are covered by the induction.
          have shorter : (dropSpaces after).length < input.length := by
            have := ((dropSpaces_suffix after).trans (suffix_of_dropSpaces hafter)).length_le
            have := taken.shorter
            have := toKey.length_le
            omega
          have others := (hfields entries (dropSpaces after) shorter).mono toAfter
          split
          · next error failed => exact others.of_error failed
          · next rest hrest => exact others.of_ok hrest
        · trivial

/-- Reading a value is sound, if reading what it holds is. What a value holds is shorter than the
value, so this is the step of an induction. -/
theorem sound_value_step (input : List Char)
    (hitems : ∀ inner : List Char, inner.length < input.length →
      Sound Taken.rest inner (items inner))
    (hfields : ∀ (entries : Entries) (inner : List Char), inner.length < input.length →
      Sound Taken.rest inner (fields entries inner)) :
    Sound Taken.rest input (value input) := by
  unfold value
  split
  · next rest =>
    -- The bracket is taken off, so what is inside of it is shorter.
    have inside := (hitems rest (Nat.lt_succ_self _)).cons (c := '[')
    split
    · next taken htaken => exact inside.of_ok htaken
    · next error failed => exact inside.of_error failed
  · next rest =>
    split
    · next after hafter => exact (suffix_of_dropSpaces hafter).trans (List.suffix_cons ..)
    · have shorter : (dropSpaces rest).length < ('\x7b' :: rest).length :=
        Nat.lt_succ_of_le (dropSpaces_suffix rest).length_le
      have inside := (hfields [] (dropSpaces rest) shorter).mono
        ((dropSpaces_suffix rest).trans (List.suffix_cons '\x7b' rest))
      split
      · next taken htaken => exact inside.of_ok htaken
      · next error failed => exact inside.of_error failed
  · exact (sound_scalar _).advancing

/-- Reading items and fields is sound. What they hold is shorter than they are, so the induction
is on the length of the input, for both of them at once. -/
theorem sound_items_fields (input : List Char) :
    Sound Taken.rest input (items input) ∧
      ∀ entries, Sound Taken.rest input (fields entries input) := by
  have below : ∀ (bound : Nat) (input : List Char), input.length < bound →
      Sound Taken.rest input (items input) ∧
        ∀ entries, Sound Taken.rest input (fields entries input) := by
    intro bound
    induction bound with
    | zero => exact fun input h => absurd h (Nat.not_lt_zero _)
    | succ bound ih =>
      intro input hinput
      -- A value as long as the input holds only what is shorter.
      have hvalue : ∀ inner : List Char, inner.length ≤ input.length →
          Sound Taken.rest inner (value inner) := fun inner hinner =>
        sound_value_step inner (fun within h => (ih within (by omega)).1)
          fun entries within h => (ih within (by omega)).2 entries
      exact ⟨sound_items_step input hvalue fun inner h => (ih inner (by omega)).1,
        fun entries => sound_fields_step entries input hvalue
          fun entries inner h => (ih inner (by omega)).2 entries⟩
  exact below _ input (Nat.lt_succ_self _)

/-- Reading a value is sound, whatever other values it holds and however deep. -/
theorem sound_value (input : List Char) : Sound Taken.rest input (value input) :=
  sound_value_step input (fun inner _ => (sound_items_fields inner).1)
    fun entries inner _ => (sound_items_fields inner).2 entries

/-! ### Statements -/

/-- Reading a header is sound, whatever it opens and whatever mark closes it. -/
theorem sound_header (input mark : List Char) (sections : Nat)
    {change : Key → Entries → Except Error Entries} (entries : Entries)
    (h : ∀ input header entries, Sound (fun _ => input) input (change header entries)) :
    Sound Prod.snd input (do
      let (header, rest) ← key (dropSpaces input)
      let entries ← descend (change header) header.parents entries
      let rest ← dropMark mark rest
      return ((⟨sections, header.path, entries⟩ : Document), rest)) := by
  refine Sound.bind ((sound_key _).mono (dropSpaces_suffix input)) fun read => ?_
  refine Sound.bind (sound_descend read.2 (h read.2 read.1) _ _) fun entries => ?_
  refine Sound.bind (sound_dropMark mark read.2) fun rest => ?_
  exact List.suffix_rfl

/-- Starting the section of a table is sound. -/
theorem sound_tableSection (document : Document) (input : List Char) :
    Sound Prod.snd input (tableSection document input) :=
  sound_header input [']'] (document.sections + 1) document.entries
    fun input header => sound_declareTable input _ header.name

/-- Starting the section of an array of tables is sound. -/
theorem sound_itemSection (document : Document) (input : List Char) :
    Sound Prod.snd input (itemSection document input) :=
  sound_header input [']', ']'] (document.sections + 1) document.entries
    fun input header => sound_appendTable input header.name

/-- Putting a value into a table is sound, as only the value can have a number in it that is too
long. -/
theorem sound_assignment (document : Document) (input : List Char) :
    Sound Prod.snd input (assignment document input) := by
  unfold assignment
  refine Sound.bind (sound_keyAndSign input) fun read => ?_
  refine Sound.bind (sound_value read.2) fun taken => ?_
  refine Sound.bind (sound_descend taken.rest (fun entries => sound_assign _ _ _ _ _ _) _ _)
    fun entries => ?_
  exact List.suffix_rfl

/-- Reading a statement is sound, whichever of the four sorts of statement it is. -/
theorem sound_statement (document : Document) (input : List Char) :
    Sound Prod.snd input (statement document input) := by
  unfold statement
  split
  · trivial
  · exact List.suffix_cons ..
  · next c rest _ =>
    -- Every sort of statement is followed by the end of its line.
    have finish : ∀ {result : Except Error (Document × List Char)},
        Sound Prod.snd (c :: rest) result →
          Sound Prod.snd (c :: rest)
            (result >>= fun read => dropLineEnd read.2 >>= fun rest => pure (read.1, rest)) :=
      fun h => h.bind fun read =>
        Sound.bind (sound_dropLineEnd read.2) fun after => List.suffix_refl after
    dsimp only
    split
    · exact finish (show Sound Prod.snd _ (.ok (document, c :: rest)) from List.suffix_rfl)
    · split
      · split
        · next rest => exact finish (.cons (.cons (sound_itemSection document rest)))
        · exact finish (.cons (sound_tableSection document _))
      · split
        · exact finish (sound_assignment document _)
        · trivial

/-- Reading all statements is sound, and nothing is left. The induction is on the length of the
input, as each statement takes something. -/
theorem sound_statements (document : Document) (input : List Char) :
    Sound (fun _ => []) input (statements document input) := by
  fun_induction statements document input with
  | case1 => exact List.nil_suffix
  | case2 document input c rest spaces taken read ih =>
    have step := (sound_statement document (c :: rest)).advancing
    exact ih.mono ((step.of_ok read).trans (spaces ▸ dropSpaces_suffix input))
  | case3 document input c rest spaces error failed =>
    have step := (sound_statement document (c :: rest)).advancing
    exact (step.mono (spaces ▸ dropSpaces_suffix input)).of_error failed

/-! ### Documents -/

/-- What stands on one line at the front of the text stands there before line ends are
unified. -/
theorem prefix_of_unifyLineEnds {text piece : List Char} (h : piece <+: unifyLineEnds text)
    (noNewline : '\n' ∉ piece) : piece <+: text := by
  fun_induction unifyLineEnds text generalizing piece with
  | case1 rest ih =>
    rcases List.prefix_cons_iff.mp h with rfl | ⟨more, rfl, -⟩
    · exact List.nil_prefix
    · exact absurd List.mem_cons_self noNewline
  | case2 c rest _ ih =>
    rcases List.prefix_cons_iff.mp h with rfl | ⟨more, rfl, hmore⟩
    · exact List.nil_prefix
    · exact List.prefix_cons_inj c |>.mpr (ih hmore fun h => noNewline (List.mem_cons_of_mem _ h))
  | case3 => exact h

/-- What stands on one line somewhere in the text stands there before line ends are
unified. -/
theorem infix_of_unifyLineEnds {text piece : List Char} (h : piece <:+: unifyLineEnds text)
    (noNewline : '\n' ∉ piece) : piece <:+: text := by
  fun_induction unifyLineEnds text with
  | case1 rest ih =>
    rcases List.infix_cons_iff.mp h with h | h
    · have : piece <+: unifyLineEnds ('\r' :: '\n' :: rest) := h
      exact (prefix_of_unifyLineEnds this noNewline).isInfix
    · exact (ih h).trans (List.suffix_append ['\r', '\n'] rest).isInfix
  | case2 c rest other ih =>
    rcases List.infix_cons_iff.mp h with h | h
    · have : piece <+: unifyLineEnds (c :: rest) := by rwa [unifyLineEnds]; exact other
      exact (prefix_of_unifyLineEnds this noNewline).isInfix
    · exact (ih h).trans (List.suffix_cons c rest).isInfix
  | case3 => exact h

/-- Only digits and underscores stand in a run of digits, so a run does not go on over any other
character. -/
theorem IsRun.notMem {isDigit : Char → Bool} {digits : Nat} {text : List Char}
    (h : IsRun isDigit digits text) {c : Char} (hc : isDigit c = false) (hne : c ≠ '_') :
    c ∉ text := by
  have first : ∀ {d : Char}, isDigit d = true → c ≠ d := fun hd =>
    (ne_of_passes hd hc).symm
  induction h with
  | digit hd => simp [first hd]
  | cons hd _ ih => simp [first hd, ih]
  | underscore hd _ ih => simp [first hd, ih, hne]

/-- If a document cannot be read, the error has its reason in the text. So a failure for a number
that is too long names a run of digits of the document. -/
theorem explains_of_read {text : String} {error : Error} (h : read text = .error error) :
    Explains text.toList error := by
  have unified : Explains (unifyLineEnds text.toList) error := by
    have all := sound_statements ⟨0, [], []⟩ (unifyLineEnds text.toList)
    rw [read] at h
    cases result : statements ⟨0, [], []⟩ (unifyLineEnds text.toList) with
    | ok document => rw [result] at h; cases h
    | error other =>
      rw [result] at h all
      cases h
      exact all
  cases error with
  | malformed => trivial
  | integerTooLong digits =>
    obtain ⟨long, numeral, within, isRun⟩ := unified
    -- A run of digits has no newline in it, so it is not changed with the line ends.
    exact ⟨long, numeral, infix_of_unifyLineEnds within (isRun.notMem rfl (by decide)), isRun⟩

end Calculator.Toml
