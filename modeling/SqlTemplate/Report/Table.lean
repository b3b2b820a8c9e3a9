import SqlTemplate.Template.Basic
import SqlTemplate.Numeral.Digits
import SqlTemplate.Text.Quoted
import SqlTemplate.Text.Width

/-! A parsed template as a table: one row per node, the children of a block below it. -/
namespace SqlTemplate.Report

/-- One row: the number of the node, its kind and its content. -/
structure Row where
  number : Text
  kind : Text
  content : Text
  deriving DecidableEq, Repr

def header : Row := ⟨['#'], "Kind".toList, "Content".toList⟩

def title : Text := "Template Nodes".toList

def fragmentKind : Fragment → Text
  | .literal _ => "literal".toList
  | .placeholder _ => "placeholder".toList

/-- A literal in quotes, so that blanks at its ends are seen; a placeholder as its token. -/
def fragmentContent : Fragment → Text
  | .literal text => Text.quoted text
  | .placeholder s => s.token

def childRows (parent : Nat) (children : List Fragment) : List Row :=
  children.mapIdx fun k child =>
    ⟨Numeral.digits parent ++ '.' :: Numeral.digits k, ' ' :: ' ' :: fragmentKind child,
      fragmentContent child⟩

def nodeRows (index : Nat) : Node → List Row
  | .fragment f => [⟨Numeral.digits index, fragmentKind f, fragmentContent f⟩]
  | .block children =>
    ⟨Numeral.digits index, "block".toList,
      Numeral.digits children.length ++ " child node(s)".toList⟩ :: childRows index children

def rows (nodes : List Node) : List Row := (nodes.mapIdx nodeRows).flatten

/-- The columns that a part of the rows needs. -/
def widthOf (part : Row → Text) (rows : List Row) : Nat :=
  (rows.map fun r => Text.columns (part r)).foldl max 0

def spaces (n : Nat) : Text := List.replicate n ' '

def alignLeft (width : Nat) (text : Text) : Text := text ++ spaces (width - Text.columns text)
def alignRight (width : Nat) (text : Text) : Text := spaces (width - Text.columns text) ++ text

/-- An odd space is put to the right. -/
def alignCenter (width : Nat) (text : Text) : Text :=
  let free := width - Text.columns text
  spaces (free / 2) ++ text ++ spaces (free - free / 2)

structure Widths where
  number : Nat
  kind : Nat
  content : Nat
  deriving DecidableEq, Repr

def Widths.of (rows : List Row) : Widths :=
  ⟨widthOf Row.number rows, widthOf Row.kind rows, widthOf Row.content rows⟩

/-- Three cells with a space on either side of each, and four borders. -/
def Widths.total (w : Widths) : Nat := w.number + w.kind + w.content + 10

/-- A line across the table between two borders. -/
def rule (w : Widths) (left line cross right : Char) : Text :=
  let bar (n : Nat) : Text := List.replicate (n + 2) line
  left :: bar w.number ++ cross :: bar w.kind ++ cross :: bar w.content ++ [right]

/-- A row between borders; the number stands to the right of its cell. -/
def rowLine (w : Widths) (border : Char) (r : Row) : Text :=
  border :: ' ' :: alignRight w.number r.number ++
    ' ' :: border :: ' ' :: alignLeft w.kind r.kind ++
    ' ' :: border :: ' ' :: alignLeft w.content r.content ++ [' ', border]

def countsLine (p : ParsedTemplate) : Text :=
  "Placeholders: ".toList ++ Numeral.ofInt p.placeholderCount ++
    ", conditional blocks: ".toList ++ Numeral.digits p.blockCount

/-- The lines of the report; an empty template has no table. -/
def lines (p : ParsedTemplate) : List Text :=
  if p.nodes = [] then ["Template is empty.".toList]
  else
    let body := rows p.nodes
    let w := Widths.of (header :: body)
    [alignCenter w.total title, rule w '┏' '━' '┳' '┓', rowLine w '┃' header,
      rule w '┡' '━' '╇' '┩'] ++ body.map (rowLine w '│') ++
      [rule w '└' '─' '┴' '┘', countsLine p]

/-- The report as text, each line ended. -/
def text (p : ParsedTemplate) : Text := (lines p).flatMap (· ++ ['\n'])

end SqlTemplate.Report
