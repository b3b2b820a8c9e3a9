import SqlTemplate.Value.Basic
import SqlTemplate.Double.Notation
import SqlTemplate.Text.Quoted

/-! Values as they are shown in messages. -/
namespace SqlTemplate.Value

def showBytes (content : List UInt8) : Text :=
  let chars := content.map fun b => Char.ofNat b.toNat
  let quote := Text.quoteFor chars
  'b' :: quote :: chars.flatMap (fun c =>
    if c.toNat < 0x80 then Text.escapeChar quote c else '\\' :: 'x' :: Text.hexDigits 2 c.toNat) ++
    [quote]

/-- The year, month and day of a date as three numbers. -/
def showDate (content : Text) : Text :=
  let parts := (content.splitOn '-').map fun part => Numeral.digits (Numeral.ofDigits part)
  "datetime.date(".toList ++ Text.join [',', ' '] parts ++ [')']

mutual

/-- A value in messages; none when an integer in it is too long to be written. -/
def shown? : Value → Option Text
  | .null => some "None".toList
  | .bool true => some "True".toList
  | .bool false => some "False".toList
  | .int i => Numeral.ofInt? i
  | .double d => some d.text
  | .str text => some (Text.quoted text)
  | .sequence .list items => (fun t => '[' :: t ++ [']']) <$> shownItems? items
  | .sequence .tuple [item] => (fun t => '(' :: t ++ [',', ')']) <$> item.shown?
  | .sequence .tuple items => (fun t => '(' :: t ++ [')']) <$> shownItems? items
  | .sequence .deque items => (fun t => "deque([".toList ++ t ++ "])".toList) <$> shownItems? items
  | .range start stop step => do
    let bounds := [start, stop] ++ if step = 1 then [] else [step]
    let parts ← bounds.mapM Numeral.ofInt?
    some ("range(".toList ++ Text.join [',', ' '] parts ++ [')'])
  | .mapping .dict entries => (fun t => '\x7b' :: t ++ ['\x7d']) <$> shownEntries? entries
  | .mapping .ordered [] => some "OrderedDict()".toList
  | .mapping .ordered entries =>
    (fun t => "OrderedDict([".toList ++ t ++ "])".toList) <$> shownPairs? entries
  | .mapping .view entries =>
    (fun t => "mappingproxy(\x7b".toList ++ t ++ "\x7d)".toList) <$> shownEntries? entries
  | .skip => some "SKIP".toList
  | .bytes true content => some (showBytes content)
  | .bytes false content => some ("bytearray(".toList ++ showBytes content ++ [')'])
  | .set [] => some "set()".toList
  | .set items => (fun t => '\x7b' :: t ++ ['\x7d']) <$> shownItems? items
  | .foreign .decimal content => some ("Decimal('".toList ++ content ++ "')".toList)
  | .foreign .date content => some (showDate content)
  | .foreign .complex content => some ('(' :: content ++ [')'])
  | .foreign _ content => some content

def shownItems? : List Value → Option Text
  | [] => some []
  | [item] => item.shown?
  | item :: rest => do some ((← item.shown?) ++ ',' :: ' ' :: (← shownItems? rest))

def shownEntries? : List (Value × Value) → Option Text
  | [] => some []
  | [(key, value)] => do some ((← key.shown?) ++ ':' :: ' ' :: (← value.shown?))
  | (key, value) :: rest => do
    some ((← key.shown?) ++ ':' :: ' ' :: (← value.shown?) ++ ',' :: ' ' :: (← shownEntries? rest))

def shownPairs? : List (Value × Value) → Option Text
  | [] => some []
  | [(key, value)] => do some ('(' :: (← key.shown?) ++ ',' :: ' ' :: (← value.shown?) ++ [')'])
  | (key, value) :: rest => do
    some ('(' :: (← key.shown?) ++ ',' :: ' ' :: (← value.shown?) ++ ')' :: ',' :: ' ' ::
      (← shownPairs? rest))

end

end SqlTemplate.Value
