import Calculator.Proofs.Cursor.Parse

/-!
# `Calculator.Proofs.Cursor.Limit`: one line under two limits

The limit on groups inside each other prunes the tree of a line and does
nothing else. Two runs on the same line are compared, under limits of which
one is larger.

* `OnLine.parse_of_silent`: if the line reads without a complaint under any
  limit at all, then under another one it has the same tree, pruned.
* `OnLine.parse_of_maxDepth_le`: if no group was too deep, whatever else is
  wrong with the line, then a larger limit gives the same tree and the same
  diagnostics.

`parse_pruned` says both of the trees of lines.
-/

set_option autoImplicit false

namespace Calculator

namespace Cursor

variable {cursor : Cursor} {tokens : List Token} {last : Token}

/-- A line that reads without a complaint under some limit has the same
tree under any other, pruned to that limit. Each group that is replaced is
reported. -/
theorem OnLine.parse_of_silent (h : cursor.OnLine tokens last) (start : cursor.position = 0)
    (silent : cursor.parse.1.diagnostics = cursor.diagnostics) (limit : Int) :
    let root := cursor.parse.1.root
    let room := (limit - cursor.depth).toNat
    ({ cursor with maxDepth := limit } : Cursor).parse.1 =
      ⟨cursor.diagnostics ++ List.replicate (root.groupsAt room) (.tooDeep limit),
        root.pruned room, cursor.parse.1.endOfFile⟩ := by
  intro root room
  obtain ⟨fits, leaves, ending, -⟩ := h.fits_of_silent start silent
  have hother : ({ cursor with maxDepth := limit } : Cursor).OnLine tokens last :=
    h.of_tokens_eq rfl
  rw [hother.parse_of_leaves_pruned start fits leaves, ending]

/-- If no group on a line is too deep under some limit, a larger one
changes nothing. -/
theorem OnLine.parse_of_maxDepth_le (h : cursor.OnLine tokens last) {larger : Int}
    (hle : cursor.maxDepth ≤ larger)
    (nothing : .tooDeep cursor.maxDepth ∉ cursor.parse.1.diagnostics) :
    ({ cursor with maxDepth := larger } : Cursor).parse.1 = cursor.parse.1 := by
  have hother : ({ cursor with maxDepth := larger } : Cursor).OnLine tokens last :=
    h.of_tokens_eq rfl
  have nothingRead : .tooDeep cursor.maxDepth ∉ (cursor.reading .term).diagnostics := by
    intro hmem
    refine nothing ?_
    rw [h.parse_eq]
    exact List.mem_append_left _ (List.mem_append_right _ hmem)
  -- The derivation of the one reading is one of the other.
  have derivation := (cursor.reads_reading .term).of_maxDepth_le hle nothingRead
  have reading : ({ cursor with maxDepth := larger } : Cursor).reading .term =
      cursor.reading .term := derivation.eq_read.symm
  rw [h.parse_eq, hother.parse_eq, reading]
  rfl

end Cursor

/-- The limit on groups inside each other prunes trees and does nothing
else. Suppose that a line gives no diagnostic but those of its tokens under
some limit. Under another limit its tree is the same, but every group
inside exactly that many others is replaced by a number that is made up at
its opening parenthesis. Each group replaced gives one diagnostic, and the
end of the tree is that of the line. For a line of any kind, if no group
was too deep, then a larger limit gives the same tree and the same
diagnostics. -/
theorem parse_pruned (line : String) (largest limit larger : Int) :
    let lexed := (Token.Stream.ofLine line largest).drain.2.diagnostics
    let tree := parse line largest limit
    let other := parse line largest larger
    (other.diagnostics = lexed →
      tree.root = other.root.pruned limit.toNat ∧
      tree.diagnostics =
        lexed ++ List.replicate (other.root.groupsAt limit.toNat) (.tooDeep limit) ∧
      tree.endOfFile = other.endOfFile ∧ tree.endOfFile = .endOfFile line.length) ∧
    (limit ≤ larger → .tooDeep limit ∉ tree.diagnostics → other = tree) ∧
    (Diagnostic.tooDeep limit).message =
      "Error: Parentheses nested deeper than " ++ toString limit ++ " levels" := by
  intro lexed tree other
  obtain ⟨tokens, h⟩ := Cursor.onLine_ofLine line largest limit
  obtain ⟨others, hother⟩ := Cursor.onLine_ofLine line largest larger
  refine ⟨fun silent => ?_, fun hle nothing => ?_, rfl⟩
  · have ending := (hother.fits_of_silent rfl silent).2.2.1
    have pruned := hother.parse_of_silent rfl silent limit
    -- At the start of a line no group is open, so all of the limit is left.
    rw [show (limit - (Cursor.ofLine line largest larger).depth).toNat = limit.toNat from
      congrArg Int.toNat (Int.sub_zero limit)] at pruned
    have htree : tree = _ := pruned
    rw [htree]
    exact ⟨rfl, rfl, rfl, ending⟩
  · exact h.parse_of_maxDepth_le hle nothing

/-- A line with a bad character, on which two groups side by side lie inside
a third, and a line that is malformed otherwise. -/
theorem parse_pruned_two_groups_and_malformed :
    (parse "((1)*(2))$" 9 2).diagnostics =
        (Token.Stream.ofLine "((1)*(2))$" 9).drain.2.diagnostics ∧
      (parse "((1)*(2))$" 9 1).diagnostics = [.badCharacter '$', .tooDeep 1, .tooDeep 1] ∧
      .tooDeep 1 ∉ (parse "(1+)2" 9 1).diagnostics ∧
      parse "(1+)2" 9 100 = parse "(1+)2" 9 1 := by
  have silent : (parse "((1)*(2))$" 9 2).diagnostics =
      (Token.Stream.ofLine "((1)*(2))$" 9).drain.2.diagnostics := by decide +kernel
  have lexed : (Token.Stream.ofLine "((1)*(2))$" 9).drain.2.diagnostics =
      [.badCharacter '$'] := by decide +kernel
  have groups : (parse "((1)*(2))$" 9 2).root.groupsAt 1 = 2 := by decide +kernel
  have shallow : .tooDeep 1 ∉ (parse "(1+)2" 9 1).diagnostics := by decide +kernel
  refine ⟨silent, ?_, shallow, (parse_pruned "(1+)2" 9 1 100).2.1 (by decide) shallow⟩
  rw [((parse_pruned "((1)*(2))$" 9 1 2).1 silent).2.1, lexed, Int.toNat_one, groups]
  rfl

end Calculator
