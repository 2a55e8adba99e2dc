import Jincubator.Backup
import Jincubator.Library.Text

/-! # The configuration file

`xini_file.h` keeps a configuration file as a list of sections, and a section as a list of
nodes: its heading, blank lines, comments and keys with their values. The maps of a file and
of a section are indexes of these lists, so an entry is found here in the list itself. A
failed assertion is `none`, and opening a file for writing is taken to succeed.
-/

namespace Jincubator.Ini

/-! ## Strings -/

def xspaceChars : List Byte := [0x20, 0x09, 0x0a, 0x0d, 0x0c, 0x0b]

def lineFeed : Byte := 0x0a
def lsect : Byte := 0x5b
def rsect : Byte := 0x5d
def equal : Byte := 0x3d
def semicolon : Byte := 0x3b
def numberSign : Byte := 0x23

def ascii (s : String) : List Byte := s.toList.map fun c => BitVec.ofNat 8 c.toNat

def xstrLtrim (chars s : List Byte) : List Byte := s.dropWhile (chars.contains ·)

def xstrRtrim (chars s : List Byte) : List Byte := s.rdropWhile (chars.contains ·)

def xstrTrim (s : List Byte) : List Byte := xstrLtrim xspaceChars (xstrRtrim xspaceChars s)

def xstrIsSingleLine (s : List Byte) : Bool := s.all fun c => c ≠ 0x0d ∧ c ≠ lineFeed

def lower (c : Byte) : Byte := if 0x41 ≤ c ∧ c ≤ 0x5a then c + 0x20 else c

/-- A string ends at its first NUL. Only whether the result is zero is ever used, so it does
not matter here if `char` has a sign. -/
def xstrIcmp : List Byte → List Byte → Int
  | [], [] => 0
  | [], r :: _ => 0 - (lower r).toNat
  | l :: _, [] => (lower l).toNat
  | l :: ls, r :: rs =>
      if lower l ≠ 0 ∧ lower l = lower r then xstrIcmp ls rs
      else (lower l).toNat - (lower r).toNat

/-! ## Numbers -/

def isDigit (c : Byte) : Bool := 0x30 ≤ c ∧ c ≤ 0x39

/-- A value out of the range of `long long` is the bound it exceeds. -/
def atoll (s : List Byte) : Int :=
  let number (s : List Byte) : Int :=
    (s.takeWhile isDigit).foldl (fun n c => 10 * n + (c.toNat - 0x30)) 0
  let n := match s.dropWhile (xspaceChars.contains ·) with
    | [] => 0
    | c :: s =>
        if c = 0x2d then -number s
        else if c = 0x2b then number s
        else number (c :: s)
  max (-2 ^ 63) (min n (2 ^ 63 - 1))

/-- An integer as a stream prints it. -/
def decimal (n : Int) : List Byte :=
  let digits := (Nat.toDigits 10 n.natAbs).map fun c => BitVec.ofNat 8 c.toNat
  if n < 0 then 0x2d :: digits else digits

/-! ## Nodes -/

/-- A section's own node is `sect`, and the first string of `keyvalue` is the key under which
the map of its section has it. -/
inductive XiniNode
  | nilline
  | comment (text : List Byte)
  | sect (name : List Byte)
  | keyvalue (key kname value : List Byte)
deriving DecidableEq

namespace XiniNode

def print : XiniNode → List Byte
  | nilline => [lineFeed]
  | comment text => text ++ [lineFeed]
  | sect name => if name = [] then [] else lsect :: name ++ [rsect, lineFeed]
  | keyvalue _ kname value => kname ++ equal :: value ++ [lineFeed]

/-- What the map of the section has of the node. -/
def ndkv : XiniNode → Option (List Byte × List Byte)
  | keyvalue key _ value => some (key, value)
  | _ => none

end XiniNode

open XiniNode

def niltryCreate (line : List Byte) : Option XiniNode :=
  if line = [] then some nilline else none

def commentTryCreate (line : List Byte) : Option XiniNode :=
  if line.head? = some semicolon ∨ line.head? = some numberSign then some (comment line)
  else none

/-- The name of a section in its brackets. -/
def bracketed (line : List Byte) : List Byte :=
  xstrTrim (xstrLtrim [lsect] (xstrRtrim [rsect] line))

def sectionTryCreate (line : List Byte) : Option XiniNode :=
  if line.head? = some lsect ∧ line.getLast? = some rsect then some (sect (bracketed line))
  else none

def keyvalueTryCreate (line : List Byte) : Option XiniNode :=
  let kname := line.takeWhile (· ≠ equal)
  if kname = [] ∨ equal ∉ line then none
  else
    let value := line.drop (kname.length + 1)
    some (keyvalue (xstrTrim kname) (xstrTrim kname) (xstrTrim value))

def makeNode (line : List Byte) : Option XiniNode :=
  niltryCreate line <|> commentTryCreate line <|> sectionTryCreate line <|>
    keyvalueTryCreate line

/-! ## Sections -/

/-- `key` is the key of the section in the map of the file. -/
structure XiniSection where
  key : List Byte
  nodes : List XiniNode

namespace XiniSection

/-- The keys of the section with their values. -/
def ndkv (s : XiniSection) : List (List Byte × List Byte) := s.nodes.filterMap XiniNode.ndkv

def findKnode (s : XiniSection) (key : List Byte) : Option (List Byte) :=
  (s.ndkv.find? fun entry => xstrIcmp entry.1 key = 0).map Prod.snd

def hasEndNilline (s : XiniSection) : Bool := s.nodes.getLast? = some nilline

/-- A node that the section rejects leaves it as it is. -/
def pushNode (s : XiniSection) (node : XiniNode) : XiniSection :=
  match node with
  | nilline => { s with nodes := s.nodes ++ [node] }
  | comment _ => { s with nodes := s.nodes ++ [node] }
  | keyvalue key _ _ =>
      if (s.findKnode key).isSome then s else { s with nodes := s.nodes ++ [node] }
  | sect _ => s

def endNilline (s : XiniSection) : XiniSection :=
  if s.hasEndNilline then s else s.pushNode nilline

/-- The nodes from the last one on. What is left of them is in this order too, and what was
taken is in the order of the file. -/
def popLoop (line : Nat) (taken : List XiniNode) : List XiniNode → List XiniNode × List XiniNode
  | [] => ([], taken)
  | nilline :: rest =>
      if line > 0 then (nilline :: rest, taken) else popLoop (line + 1) (nilline :: taken) rest
  | comment text :: rest => popLoop (line + 1) (comment text :: taken) rest
  | sect name :: rest => (taken.reverse ++ sect name :: rest, [])
  | keyvalue key kname value :: rest => (taken.reverse ++ keyvalue key kname value :: rest, [])

/-- What the section keeps and what is taken from its end. -/
def popTailComment (nodes : List XiniNode) : List XiniNode × List XiniNode :=
  let (kept, taken) := popLoop 0 [] nodes.reverse
  (kept.reverse, taken)

def keepTail (s : XiniSection) : XiniSection := { s with nodes := (popTailComment s.nodes).1 }

/-- The comments of another section at the end of this one, between empty lines. -/
def addTail (taken : List XiniNode) (s : XiniSection) : XiniSection :=
  endNilline { s with nodes := s.endNilline.nodes ++ taken }

/-- The section with an entry for the key. -/
def subscript (s : XiniSection) (key : List Byte) : Option XiniSection :=
  let nkey := xstrTrim key
  if !xstrIsSingleLine key then none
  else if (s.findKnode nkey).isSome then some s
  else match keyvalueTryCreate (nkey ++ [equal]) with
    | some (keyvalue _ kname value) =>
        some { s with nodes := s.nodes ++ [keyvalue nkey kname value] }
    | _ => none

def setKnode (s : XiniSection) (key value : List Byte) : XiniSection :=
  { s with
    nodes := s.nodes.map fun
      | keyvalue k kname v => keyvalue k kname (if xstrIcmp k key = 0 then value else v)
      | node => node }

def print (s : XiniSection) : List Byte := s.nodes.flatMap XiniNode.print

end XiniSection

/-! ## Reading a file -/

/-- The sections with the one that the next line goes to. -/
structure Loading where
  sects : List XiniSection
  current : Nat

namespace Loading

/-- The list of the current section. -/
def nodes (l : Loading) : List XiniNode := ((l.sects[l.current]?).map XiniSection.nodes).getD []

def pushSect (l : Loading) (name : List Byte) : Loading :=
  let taken := (XiniSection.popTailComment l.nodes).2
  match l.sects.findIdx? fun s => xstrIcmp s.key name = 0 with
  | none =>
      { sects := l.sects.modify l.current XiniSection.keepTail ++ [⟨name, taken ++ [sect name]⟩]
        current := l.sects.length }
  | some found =>
      if found = l.current then l
      else
        { sects := (l.sects.modify l.current XiniSection.keepTail).modify found
            (XiniSection.addTail taken)
          current := found }

def push (l : Loading) (node : XiniNode) : Loading :=
  match node with
  | sect name => l.pushSect name
  | node => { l with sects := l.sects.modify l.current fun s => s.pushNode node }

/-- A line that is no node is left out. -/
def pushLine (l : Loading) (line : List Byte) : Loading :=
  match makeNode line with
  | none => l
  | some node => l.push node

end Loading

/-- The lines of a stream without the blanks around them, and without an empty last one. -/
def getlines (text : List Byte) : List (List Byte) :=
  let lines := (text.splitOn lineFeed).map xstrTrim
  if lines.getLast? = some [] then lines.dropLast else lines

/-- Lines before the first heading go to a section without a name. -/
def readLines (lines : List (List Byte)) : Loading :=
  lines.foldl Loading.pushLine ⟨[⟨[], []⟩], 0⟩

/-- `iscntrl` or `isprint` in the C locale. -/
def isText (c : Byte) : Bool := c < 0x80

/-- The encoding mark at the head of a file, and the text. The end of the file is read as a
character too. -/
def skipHead : List Byte → List Byte × List Byte
  | [] => ([0xff], [])
  | c :: rest =>
      if isText c then ([], c :: rest)
      else (c :: (skipHead rest).1, (skipHead rest).2)

/-! ## Files -/

structure XiniFile where
  dirty : Bool
  head : List Byte
  sects : List XiniSection

namespace XiniFile

/-- A file that is not there leaves the object empty. -/
def load (content : Option (List Byte)) : XiniFile :=
  match content with
  | none => ⟨false, [], []⟩
  | some bytes =>
      let (head, text) := skipHead bytes
      ⟨false, head, (readLines (getlines text)).sects⟩

/-- An empty line separates a section from the next one. -/
def printSects : List XiniSection → List Byte
  | [] => []
  | [s] => s.print
  | s :: t :: rest =>
      if s.nodes = [] then printSects (t :: rest)
      else if s.hasEndNilline then s.print ++ printSects (t :: rest)
      else s.print ++ lineFeed :: printSects (t :: rest)

def dump (f : XiniFile) : List Byte := cString f.head ++ printSects f.sects

/-- What the file holds after the object is gone. -/
def release (f : XiniFile) (content : Option (List Byte)) : Option (List Byte) :=
  if f.dirty then some f.dump else content

def findSect (f : XiniFile) (name : List Byte) : Option XiniSection :=
  f.sects.find? fun s => xstrIcmp s.key name = 0

/-- The name of a section as an index. -/
def sectName (name : List Byte) : List Byte := bracketed (xstrTrim name)

/-- The file with an entry for the section. -/
def subscript (f : XiniFile) (name : List Byte) : Option XiniFile :=
  let nkey := sectName name
  if !xstrIsSingleLine name then none
  else if (f.findSect nkey).isSome then some f
  else match sectionTryCreate (lsect :: nkey ++ [rsect]) with
    | some node => some { f with sects := f.sects ++ [⟨nkey, [node]⟩] }
    | none => none

/-- The section of this name, changed. -/
def modifySect (f : XiniFile) (name : List Byte) (change : XiniSection → XiniSection) : XiniFile :=
  { f with sects := f.sects.map fun s => if xstrIcmp s.key name = 0 then change s else s }

/-- `ini[name][key]` for reading or for writing. -/
def entry (f : XiniFile) (name key : List Byte) : Option XiniFile :=
  (f.subscript name).bind fun f =>
    (f.findSect (sectName name)).bind fun s =>
      (s.subscript key).map fun s => f.modifySect (sectName name) fun _ => s

/-- The value of a key that is there. -/
def lookup (f : XiniFile) (name key : List Byte) : Option (List Byte) :=
  (f.findSect (sectName name)).bind fun s => s.findKnode (xstrTrim key)

/-- The file after reading an entry, and its value. -/
def read (f : XiniFile) (name key : List Byte) : Option (XiniFile × List Byte) :=
  (f.entry name key).bind fun f => (f.lookup name key).map fun value => (f, value)

/-- An equal value does not make the file dirty. -/
def invkSetValue (f : XiniFile) (name key value : List Byte) : XiniFile :=
  if f.lookup name key = some value then f
  else
    { f.modifySect (sectName name) fun s => s.setKnode (xstrTrim key) value with dirty := true }

def setIvalue (f : XiniFile) (name key : List Byte) (n : Int) : Option XiniFile :=
  (f.entry name key).map fun f => f.invkSetValue name key (decimal n)

end XiniFile

end Jincubator.Ini
