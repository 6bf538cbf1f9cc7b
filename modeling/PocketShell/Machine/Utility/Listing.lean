import PocketShell.Machine.Script.Pattern
import PocketShell.Machine.Utility.Columns
import PocketShell.Machine.Utility.Request

/-!
# Lists of files

`ls` names what its operands lead to, and for directories what is in them. Names are sorted by
their bytes unless something else is asked for. The space that files take, their owners and the
wording of their times are not known here.
-/

namespace PocketShell.Machine.Utility

open Script (toBytes byteText)
open Text (Bytes)
open Job

/-- What entries can be sorted by. -/
inductive Order where
  | byName
  | byTime
  | bySize
  | byExtension
  deriving DecidableEq

/-- How entries can be laid out. -/
inductive Layout where
  | single
  | commas
  | across
  | down
  deriving DecidableEq

/-- How names can be written. -/
inductive NameStyle where
  | plain
  | shell (always : Bool)
  | text (always : Bool)
  | escaped
  | printed
  deriving DecidableEq

/-- The values of the options that choose an order, a layout and a way to write names. -/
def orderWords : List (List String × Order) :=
  [(["none"], .byName), (["time"], .byTime), (["size"], .bySize), (["extension"], .byExtension),
   (["version"], .byName), (["width"], .byName)]
@[inherit_doc orderWords] def layoutWords : List (List String × Layout) :=
  [(["verbose", "long"], .single), (["commas"], .commas), (["horizontal", "across"], .across),
   (["vertical"], .down), (["single-column"], .single)]
@[inherit_doc orderWords] def nameStyleWords : List (List String × NameStyle) :=
  [(["literal"], .plain), (["shell"], .shell false), (["shell-always"], .shell true),
   (["shell-escape"], .shell false), (["shell-escape-always"], .shell true),
   (["c"], .text true), (["c-maybe"], .text false), (["escape"], .escaped),
   (["locale"], .printed), (["clocale"], .text true)]

/-- The words for the times that files can be sorted by. -/
def listTimeWords : List (List String × Char) :=
  [(["atime", "access", "use"], 'u'), (["ctime", "status"], 'c'),
   (["mtime", "modification"], 'm'), (["birth", "creation"], 'b')]

/-- The words for when something is done: always, never, or only for those who look on. -/
def occasionWords : List (List String × Bool) :=
  [(["always", "yes", "force"], true), (["never", "no", "none"], false),
   (["auto", "tty", "if-tty"], false)]

/-- The words for the signs behind names. -/
def signWords : List (List String × Char) :=
  [(["none"], 'n'), (["slash"], 'p'), (["file-type"], '/'), (["classify"], 'F')]

/-- The options of `ls`. -/
def listChoices : List Choice :=
  [.flag 'a' ["all"], .flag 'A' ["almost-all"], .flag 'b' ["escape"], .flag 'd' ["directory"],
   .named '^' ["group-directories-first"] .none, .flag 'h' ["human-readable"],
   .flag 'k' ["kibibytes"], .flag 'q' ["hide-control-chars"], .flag 'B' ["ignore-backups"],
   .mayHave 'F' ["classify"], .named '/' ["file-type"] .none,
   .flag 'H' ["dereference-command-line"], .withValue 'I' ["ignore"],
   .named '+' ["indicator-style"] .needed, .flag 'L' ["dereference"], .flag 'N' ["literal"],
   .flag 'Q' ["quote-name"], .named '"' ["quoting-style"] .needed, .flag 'r' ["reverse"],
   .flag 'R' ["recursive"], .withValue 'w' ["width"], .named '=' ["format"] .needed,
   .named '%' ["color"] .possible, .named '*' ["hide"] .needed, .named '<' ["sort"] .needed,
   .named ':' ["show-control-chars"] .none, .withValue 'T' ["tabsize"],
   .named '.' ["time"] .needed, .named '0' ["zero"] .none] ++
  Choice.flags "1CcfGmptSUuvXx"

/-- What a call asks for. -/
structure Presentation where
  request : Request
  order : Order
  layout : Layout
  page : Page
  names : NameStyle
  /-- The sign behind names that is asked for. -/
  sign : Char

namespace Presentation

/-- The meaning of the value that was given last to an option. What is wrong with any of them is
told. -/
private def meaning? [BEq α] (r : Request) (letter : Char) (option : String)
    (words : List (List String × α)) : Except String (Option α) :=
  (r.values letter).foldlM (fun _ s => some <$> Request.meaning option words s) none

/-- The manner that a request asks for, or what is wrong with the words in it. -/
def ofRequest (r : Request) : Except String Presentation := do
  let order? ← meaning? r '<' "--sort" orderWords
  let layout? ← meaning? r '=' "--format" layoutWords
  let names? ← meaning? r '"' "--quoting-style" nameStyleWords
  let sign? ← meaning? r '+' "--indicator-style" signWords
  let classifies? ← meaning? r 'F' "--classify" occasionWords
  let _ ← meaning? r '%' "--color" occasionWords
  let _ ← meaning? r '.' "--time" listTimeWords
  let hasTime := r.has 'c' || r.has 'u' || r.has '.'
  return {
    request := r
    order :=
      match r.lastOf ['S', 'X', 'U', 't', 'v', 'f', '<'] with
      | some 'S' => .bySize
      | some 'X' => .byExtension
      | some 't' => .byTime
      | some '<' => order?.getD .byName
      | some _ => .byName
      | none => if hasTime then .byTime else .byName
    layout :=
      match r.lastOf ['m', '1', 'C', 'x', '=', '0'] with
      | some 'm' => .commas
      | some 'C' => .down
      | some 'x' => .across
      | some '=' => layout?.getD .single
      | _ => .single
    page := ⟨((r.value? 'w').bind (·.toNat?)).getD 80, ((r.value? 'T').bind (·.toNat?)).getD 8⟩
    names :=
      match r.lastOf ['Q', 'b', 'N', '"'] with
      | some 'Q' => .text true
      | some 'b' => .escaped
      | some '"' => names?.getD .plain
      | _ => .plain
    sign :=
      match r.lastOf ['F', 'p', '/', '+'] with
      | some 'F' => if classifies?.getD true then 'F' else 'n'
      | some '+' => sign?.getD 'n'
      | some c => c
      | none => 'n' }

end Presentation

/-- Something that is listed. -/
structure Entry where
  name : Bytes
  node : Node
  changed : Int

/-- How many bytes something has. -/
def byteCount : Node → Nat
  | .file _ content => content.length
  | .link target => target.length
  | .directory _ => 4096
  | _ => 0

/-- What a name ends in, from its last full stop on. -/
def extension (name : Bytes) : Bytes :=
  if name.contains 0x2E then 0x2E :: (name.reverse.takeWhile (· != 0x2E)).reverse else []

/-- The order of entries: those with the same place in it follow one another by their names. -/
def Order.precedes (order : Order) (a b : Entry) : Bool :=
  let namesPrecede := FileSystem.precedes a.name b.name
  let first (x y : Int) : Bool := y < x || (x == y && namesPrecede)
  match order with
  | .byName => namesPrecede
  | .byTime => first a.changed b.changed
  | .bySize => first (byteCount a.node) (byteCount b.node)
  | .byExtension =>
    let (x, y) := (extension a.name, extension b.name)
    if x = y then namesPrecede else FileSystem.precedes x y

namespace Presentation

/-- Sorts entries. -/
def sorted (m : Presentation) (entries : List Entry) : List Entry :=
  let l := entries.mergeSort m.order.precedes
  let l := if m.request.has 'r' then l.reverse else l
  if m.request.has '^' then l.filter (·.node.isDirectory) ++ l.filter (!·.node.isDirectory)
  else l

/-- Whether an entry of a directory is listed. -/
def isListed (m : Presentation) (name : Bytes) : Bool :=
  let r := m.request
  let doesMatch (pattern : String) : Bool :=
    (Script.Pattern.ofChars (pattern.toList.map (·, false))).doesMatch (byteText name).toList
  let isHidden := name.head? = some 0x2E
  let showsHidden := r.has 'a' || r.has 'A' || r.has 'f'
  (showsHidden || (!isHidden && !(r.values '*').any doesMatch)) &&
    !(r.values 'I').any doesMatch && !(r.has 'B' && name.getLast? = some 0x7E)

/-- A name as it is written. -/
def shownName (m : Presentation) (name : Bytes) : Bytes :=
  let text := byteText name
  let cs := Script.charactersOf text
  let hidesControls := m.request.lastOf ['q', ':'] = some 'q'
  let escape (marked : List Char) (c : List Char) : List Char :=
    match escape? c with
    | some escape => escape
    | none => if c.any marked.contains then '\\' :: c else c
  let inText := cs.flatMap (escape ['"', '\\'])
  match m.names with
  | .plain =>
    if hidesControls then
      toBytes (String.ofList (cs.flatMap fun c => if (escape? c).isSome then ['?'] else c))
    else name
  | .shell true => toBytes (quoted text)
  | .shell false => toBytes (quotedIfNeeded text)
  | .escaped => toBytes (String.ofList (cs.flatMap (escape [' ', '\\'])))
  | .printed => toBytes (curly text)
  | .text always =>
    let needsThem := cs.any fun c => (escape? c).isSome || c = ['"']
    if always || needsThem then toBytes (String.ofList ('"' :: inText ++ ['"'])) else name

/-- The sign behind the name of an entry. -/
def indicator (m : Presentation) : Node → Bytes
  | .directory _ => if m.sign = 'n' then [] else [0x2F]
  | .link _ => if m.sign = 'F' || m.sign = '/' then [0x40] else []
  | node => if m.sign = 'F' && node.isRegular && node.mode &&& 0o111 ≠ 0 then [0x2A] else []

/-- The lines for entries. -/
def entryLines (m : Presentation) (entries : List Entry) : Bytes :=
  let cells := entries.map fun e => Cell.ofName (m.shownName e.name ++ m.indicator e.node)
  if cells.isEmpty then []
  else if m.request.has '0' && m.layout ≠ .commas then
    cells.flatMap (·.text ++ [0])
  else
    match m.layout with
    | .single => cells.flatMap (·.text ++ [0x0A])
    | .commas => Cell.inRow m.page 0x2C cells
    | .across => Cell.inColumns m.page false cells
    | .down => Cell.inColumns m.page true cells

end Presentation

/-- A path with a name behind it. -/
def pathBelow (path name : Bytes) : Bytes :=
  if path.getLast? = some slash then path ++ name else path ++ [slash] ++ name

/-- Lists a directory, and on request those below it. The answer is a block for each of them,
and the status. -/
def listDirectory (m : Presentation) (isTitled isOperand : Bool) :
    (depth : Nat) → (path : Bytes) → Job (List Bytes × Int)
  | 0, _ => return ([], 0)
  | depth + 1, path => do
    let r := m.request
    let here := (← call).here
    let files ← files
    match files.find here path, files.list here path with
    | .ok (loc, _), .ok names =>
      let entryOf (follows : Bool) (name : Bytes) : Option Entry := do
        let (number, node) ←
          if follows then (files.stat loc name true).toOption <|> (files.stat loc name false).toOption
          else (files.stat loc name false).toOption
        return ⟨name, node, (files.changeOf? number).getD 0⟩
      let inside := (names.filter m.isListed).filterMap (entryOf (r.has 'L'))
      let around :=
        if (r.has 'a' || r.has 'f') && !FileSystem.isRemoved loc then
          [stay, up].filterMap (entryOf false)
        else []
      let entries := m.sorted (around ++ inside)
      let title := if isTitled then m.shownName path ++ [0x3A, 0x0A] else []
      let block := title ++ m.entryLines entries
      if !r.has 'R' then return ([block], 0)
      let below := entries.filter fun e => e.node.isDirectory && e.name ≠ stay && e.name ≠ up
      let inner ← below.mapM fun e =>
        listDirectory m true false depth (pathBelow path e.name)
      return (block :: (inner.map (·.1)).flatten, (inner.map (·.2)).foldl max 0)
    | _, .error e | .error e, _ =>
      complain ("cannot open directory " ++ quoted (byteText path) ++ ": " ++ e.message)
      return ([], if isOperand then 2 else 1)

/-- The value of an option that is no number, and what it was to be. -/
def wrongSize? (r : Request) : Option String :=
  r.options.findSome? fun (c, s?) => do
    let kind ← [('w', "line width"), ('T', "tab size")].lookup c
    let s ← s?.filter (·.toNat?.isNone)
    return "invalid " ++ kind ++ ": " ++ curly s

/-- Lists files. -/
def lsJob : Job Int := do
  match Request.take listChoices false none (← arguments) with
  | .error complaint => misuseWith 2 complaint
  | .ok r => do
    if let some complaint := wrongSize? r then
      complain complaint
      return 2
    match Presentation.ofRequest r with
    | .error complaint => misuseWith 2 complaint
    | .ok m => do
    let here := (← call).here
    let files ← files
    let operands := (if r.operands.isEmpty then ["."] else r.operands).map toBytes
    let keepsLinks := !(r.has 'L' || r.has 'H') && (r.has 'd' || m.sign = 'F')
    let entry (o : Bytes) : Except Errno Entry := do
      let entryOf (found : Nat × Node) : Entry := ⟨o, found.2, (files.changeOf? found.1).getD 0⟩
      match files.stat here o true, files.stat here o false with
      | .ok found, .ok own =>
        let isFollowed := r.has 'L' || r.has 'H' || (found.2.isDirectory && !keepsLinks)
        return entryOf (if isFollowed then found else own)
      | .error e, .ok own => if r.has 'L' || r.has 'H' then throw e else return entryOf own
      | _, .error e => throw e
    for o in operands do
      if let .error e := entry o then
        complain ("cannot access " ++ quoted (byteText o) ++ ": " ++ e.message)
    let entries := m.sorted (operands.filterMap fun o => (entry o).toOption)
    let isOpened (e : Entry) : Bool := !r.has 'd' && e.node.isDirectory
    let plain := entries.filter (!isOpened ·)
    let isTitled := r.has 'R' || 1 < operands.length
    let opened ← (entries.filter isOpened).mapM fun e =>
      listDirectory m isTitled true files.depth e.name
    let blocks := (if plain.isEmpty then [] else [m.entryLines plain]) ++
      (opened.map (·.1)).flatten
    let status := (opened.map (·.2)).foldl max (if entries.length = operands.length then 0 else 2)
    sayOr 2 (byteText ([0x0A].intercalate blocks)) status

end PocketShell.Machine.Utility
