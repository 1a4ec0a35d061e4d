import Calculator.Grammar
import Calculator.Token.Stream

/-!
# `Calculator.Cursor`: a place in the significant tokens of a line

A cursor holds the significant tokens of a line, which are all but blanks
and bad characters, and the index of the next one to be read. It can look
ahead, take tokens one at a time, or read whole expressions by the rules
of `Calculator.Grammar`. Taking tokens beyond the end is allowed: the
end-of-file token stands at every index behind it.

* `Cursor.peek`, `Cursor.current`, `Cursor.advance`, `Cursor.require`:
  single tokens.
* `Cursor.read`: an expression of a level of the grammar.
* `Cursor.parse`: an expression and the end of the line.
* `parse`: the tree of a line.
-/

set_option autoImplicit false

namespace Calculator

/-- A place in the significant tokens of a line, with all that was found wrong up to it. Blanks
and bad characters are gone, and what was wrong with them is kept. -/
structure Cursor where
  /-- The significant tokens, ending with the end-of-file token. -/
  tokens : List Token
  /-- The index of the next token. -/
  position : Nat
  /-- The number of groups that are open there. -/
  depth : Nat
  /-- The number of groups that may lie inside each other. -/
  maxDepth : Int
  /-- What was found wrong so far, in order. -/
  diagnostics : List Diagnostic
  deriving Repr

namespace Cursor

/-- The start of a line, with what is wrong with its tokens. All tokens are cut off before the
first of them is read. -/
def ofLine (line : String) (largest maxDepth : Int) : Cursor :=
  let drained := (Token.Stream.ofLine line largest).drain
  ⟨drained.1.filter fun token => token.kind.isSignificant, 0, 0, maxDepth,
    drained.2.diagnostics⟩

/-- The last token, which is the end-of-file token of the line for every cursor that is made from
a line. -/
def last (cursor : Cursor) : Token :=
  cursor.tokens.getLast?.getD (.endOfFile 0)

/-- The token at an offset from the next one. Behind the end it is the last
token. An index below zero counts from the end, and one that lies before
the first token counted so has no token. -/
def peek (cursor : Cursor) (offset : Int) : Option Token :=
  let index := cursor.position + offset
  let size : Int := cursor.tokens.length
  if size ≤ index then
    some cursor.last
  else if 0 ≤ index then
    cursor.tokens[index.toNat]?
  else if 0 ≤ size + index then
    cursor.tokens[(size + index).toNat]?
  else
    none

/-- The next token. -/
def current (cursor : Cursor) : Token :=
  cursor.tokens[cursor.position]?.getD cursor.last

/-- Takes the next token. The index goes up even behind the end, where the same token is given
again. -/
def advance (cursor : Cursor) : Token × Cursor :=
  (cursor.current, { cursor with position := cursor.position + 1 })

/-- Takes a token of a kind, or makes one up and stays in place. -/
def require (cursor : Cursor) (kind : Kind) : Token × Cursor :=
  let found := cursor.current
  if found.kind = kind then
    cursor.advance
  else
    (.missing kind found.position,
      { cursor with
        diagnostics := cursor.diagnostics ++ [.unexpectedToken found.kind kind] })

/-- The grammar by which expressions are read from here: the limit on groups, and the token at the
end of the line. -/
def grammar (cursor : Cursor) : Grammar :=
  ⟨cursor.maxDepth, cursor.last⟩

/-- Reads an expression of a level. -/
def read (cursor : Cursor) (level : Level) : Expr × Cursor :=
  let remaining := cursor.tokens.drop cursor.position
  let reading := cursor.grammar.read cursor.depth level remaining
  (reading.expr,
    { cursor with
      position := cursor.position + (remaining.length - reading.rest.length)
      diagnostics := cursor.diagnostics ++ reading.diagnostics })

/-- Reads an expression that must take up the rest of the line. The tree
holds all diagnostics so far. -/
def parse (cursor : Cursor) : Tree Diagnostic × Cursor :=
  let (root, cursor) := cursor.read .term
  let (endOfFile, cursor) := cursor.require .endOfFile
  (⟨cursor.diagnostics, root, endOfFile⟩, cursor)

end Cursor

/-- The tree of a line. It is complete even for a malformed line, so its
diagnostics are to be looked at before its root is evaluated. -/
def parse (line : String) (largest maxDepth : Int) : Tree Diagnostic :=
  (Cursor.ofLine line largest maxDepth).parse.1

end Calculator
