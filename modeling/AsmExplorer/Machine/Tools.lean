import AsmExplorer.Machine.Grep
import AsmExplorer.Machine.Printf
import AsmExplorer.Machine.Sed
import AsmExplorer.Machine.Tools.Columns
import AsmExplorer.Machine.Tools.Copies
import AsmExplorer.Machine.Tools.Links

/-!
# Small tools

The programs of a plain machine that scripts call: those that pass texts on or count them, those
that make and remove files, and those that take names apart.  `Tools.find?` knows them all by name.
-/

namespace AsmExplorer.Tools

/-! ### Texts -/

/-- Passes texts on. -/
def cat : Tool := fun p =>
  overOperands p (operands p.args) put

/-- The lines of bytes, each with its line end. -/
def byteLines (bytes : List UInt8) : List (List UInt8) :=
  (bytes.foldr
    (fun b lines =>
      match lines with
      | [] => [[b]]
      | line :: rest => if b = 10 then [b] :: line :: rest else (b :: line) :: rest)
    [])

/-- How much of a text to pass on. -/
structure Portion where
  /-- Whether bytes are counted, not lines. -/
  bytes : Bool := false
  /-- Whether the number tells where to start, not how much to take. -/
  fromStart : Bool := false
  /-- The number. -/
  count : Nat := 10

/-- The portion with a number, which a plus sign may precede. -/
def Portion.ofCount (bytes : Bool) : List Char → Portion
  | '+' :: ds => { bytes, fromStart := true, count := (Text.nat? ds).getD 10 }
  | ds => { bytes, count := (Text.nat? ds).getD 10 }

/-- The portion that the arguments ask for, and the operands. -/
def portion : List String → Portion × List String
  | "-n" :: n :: rest => (.ofCount false n.toList, rest)
  | "-c" :: n :: rest => (.ofCount true n.toList, rest)
  | arg :: rest =>
    match arg.toList with
    | '-' :: 'n' :: ds => (.ofCount false ds, rest)
    | '-' :: 'c' :: ds => (.ofCount true ds, rest)
    | '-' :: d :: ds => (.ofCount false (d :: ds), rest)
    | _ => ({}, arg :: rest)
  | [] => ({}, [])

/-- The units that a portion counts. -/
def Portion.units (n : Portion) (bytes : List UInt8) : List (List UInt8) :=
  if n.bytes then bytes.map ([·]) else byteLines bytes

/-- Passes the first lines or bytes on. -/
def head : Tool := fun p =>
  let (n, names) := portion p.args
  overOperands p names fun c bytes => put c ((n.units bytes).take n.count).flatten

/-- Passes the last lines or bytes on. -/
def tail : Tool := fun p =>
  let (n, names) := portion p.args
  overOperands p names fun c bytes =>
    let units := n.units bytes
    put c (units.drop (if n.fromStart then n.count - 1 else units.length - n.count)).flatten

/-- Counts lines, words and bytes.  A single number stands alone; several are set in columns. -/
def wc : Tool := fun p =>
  let named := operands p.args
  overOperands p named fun c bytes =>
    let text := Text.decodeLossy bytes
    let counts := [('l', bytes.count 10), ('w', (Text.words text).length), ('m', text.length),
      ('c', bytes.length)]
    let asked := counts.filter fun (letter, _) => hasOption p letter
    let shown := if asked.isEmpty then counts.filter (·.1 != 'm') else asked
    let digits := shown.map fun (_, n) => Text.decimal n
    let width := if digits.length ≤ 1 then 0 else if named.isEmpty then 7 else
      (Text.decimal bytes.length).length
    let columns := digits.map fun ds => List.replicate (width - ds.length) ' ' ++ ds
    let name := match named with
      | [name] => ' ' :: name.toList
      | _ => []
    c.say (Text.joinWith [' '] columns ++ name ++ ['\n'])

/-- Counts from a first to a last number, each on a line. -/
def seq : Tool := fun p =>
  let between (first step last : Int) : Completion :=
    let count := if step = 0 then 0 else (Int.fdiv (last - first) step + 1).toNat
    (p.complete false).say ((List.range count).flatMap fun (i : Nat) =>
      (toString (first + step * (i : Int))).toList ++ ['\n'])
  match p.args.map Printf.number with
  | [last] => between 1 1 last
  | [first, last] => between first 1 last
  | [first, step, last] => between first step last
  | _ => misused p 1 "missing operand"

/-- Sorts lines. -/
def sort : Tool := fun p =>
  overOperands p (operands p.args) fun c bytes =>
    let lines := (textLines (Text.decodeLossy bytes)).map fun (text, _) => String.ofList text
    let sorted := lines.mergeSort fun a b => !decide (b < a)
    let sorted := if p.args.contains "-u" then sorted.eraseDups else sorted
    let sorted := if p.args.contains "-r" then sorted.reverse else sorted
    c.say (sorted.flatMap fun line => line.toList ++ ['\n'])

/-- The characters that a set of `tr` names: characters, escapes and ranges. -/
def trSet : List Char → List Char
  | '\\' :: 'n' :: rest => '\n' :: trSet rest
  | '\\' :: 't' :: rest => '\t' :: trSet rest
  | '\\' :: 'r' :: rest => '\r' :: trSet rest
  | '\\' :: '\\' :: rest => '\\' :: trSet rest
  | a :: '-' :: b :: rest =>
    (List.range (b.toNat + 1 - a.toNat)).map (fun k => Char.ofNat (a.toNat + k)) ++ trSet rest
  | c :: rest => c :: trSet rest
  | [] => []

/-- Replaces or deletes characters. -/
def tr : Tool := fun p =>
  let text := Text.decodeLossy p.stdin
  match p.args with
  | ["-d", set] =>
    let gone := trSet set.toList
    (p.complete true).say (text.filter fun c => !gone.contains c)
  | [old, new] =>
    let old := trSet old.toList
    let new := trSet new.toList
    let last := new.getLastD ' '
    let pairs := old.zip (new ++ List.replicate (old.length - new.length) last)
    (p.complete true).say (text.map fun c => (pairs.lookup c).getD c)
  | [set] =>
    misused p 1 ("missing operand after ‘" ++ set ++
      "’\nTwo strings must be given when translating.")
  | _ => misused p 1 "missing operand"

/-- Passes the input on to files as well. -/
def tee : Tool := fun p =>
  let done := change p 1 (operands p.args) fun files name =>
    (files.write p.cwd (.ofText name) (hasOption p 'a') p.stdin).mapError (about "tee" name)
  { done with unread := [], written := (.output, p.stdin) :: done.written }

/-- Writes the values of variables of the environment. -/
def printenv : Tool := fun p =>
  p.args.foldl
    (fun c name =>
      match p.env.lookup name with
      | some value => c.say (value.toList ++ ['\n'])
      | none => { c with ending := .exited 1 })
    (p.complete false)

/-! ### Files -/

/-- The wording of a directory that cannot be made. -/
def cannotCreate (name reason : String) : String :=
  "mkdir: cannot create directory ‘" ++ name ++ "’: " ++ reason

/-- Makes directories; with `-p` also those above. -/
def mkdir : Tool := needingOperand "missing operand" fun p =>
  let parents := p.args.any fun arg => arg == "-p"
  change p 1 (operands p.args) fun files name =>
    let path := Path.ofText name
    let base := if path.isAbsolute then [] else p.cwd
    let names := base ++ path.normalize.components.filterMap fun
      | .name bytes => some bytes
      | _ => none
    if parents then .ok (files.makeDirectories names)
    else
      match files.walk p.cwd path true with
      | .error fault => .error (cannotCreate name fault.plainMessage)
      | .ok names =>
        match files.find? names, files.find? names.dropLast with
        | some _, _ => .error (cannotCreate name "File exists")
        | none, some .directory => .ok (files.insert names .directory)
        | none, some _ => .error (cannotCreate name "Not a directory")
        | none, none => .error (cannotCreate name "No such file or directory")

/-- Removes files, and with `-r` directories. -/
def rm : Tool := needingOperand "missing operand" fun p =>
  let all := hasOption p 'r' || hasOption p 'R'
  change p 1 (operands p.args) fun files name =>
    match files.lookup p.cwd (.ofText name) true with
    | .ok (names, .directory) =>
      if all then .ok (files.erase names)
      else .error ("rm: cannot remove '" ++ name ++ "': Is a directory")
    | .ok (names, _) => .ok (files.erase names)
    | .error fault =>
      if hasOption p 'f' then .ok files
      else .error ("rm: cannot remove '" ++ name ++ "': " ++ fault.plainMessage)

/-- Makes files. -/
def touch : Tool := needingOperand "missing file operand" fun p =>
  change p 1 (operands p.args) fun files name =>
    (files.write p.cwd (.ofText name) true []).mapError fun fault =>
      "touch: cannot touch '" ++ name ++ "': " ++ fault.plainMessage

/-! ### Names -/

/-- The last name of a path, perhaps without an ending. -/
def basename : Tool := fun p =>
  match p.args with
  | name :: rest =>
    let base := (Path.ofText name).fileName?.getD (Text.bytes name)
    let ending := Text.bytes (rest.headD "")
    let base :=
      if ending.isSuffixOf base && ending.length < base.length then
        base.take (base.length - ending.length)
      else base
    put (p.complete false) (base ++ Text.utf8 ['\n'])
  | [] => misused p 1 "missing operand"

/-- The path without its last name. -/
def dirname : Tool := fun p =>
  match p.args with
  | name :: _ =>
    let path := Path.ofText name
    let parent :=
      match path.parent? with
      | some up => if up.bytes = [] then [Path.dot] else up.bytes
      | none => if path.isAbsolute then [Path.slash] else [Path.dot]
    put (p.complete false) (parent ++ Text.utf8 ['\n'])
  | [] => misused p 1 "missing operand"

/-! ### Conditions -/

/-- The number that a word of a condition stands for. -/
def numberOf (word : String) : Except String Int :=
  let digits := match word.toList with
    | '-' :: ds => ds
    | '+' :: ds => ds
    | ds => ds
  if (Text.nat? digits).isSome then .ok (Printf.number word)
  else .error ("Illegal number: " ++ word)

/-- Compares the numbers that two words stand for. -/
def compareNumbers (a b : String) (holds : Int → Int → Bool) : Except String Bool := do
  return holds (← numberOf a) (← numberOf b)

/-- The value of a condition of up to four words. -/
def simpleCondition (p : Process) (args : List String) : Except String Bool :=
  let kind (name : String) : Option FileNode :=
    (p.files.lookup p.cwd (.ofText name)).toOption.map (·.2)
  match args with
  | [] => .ok false
  | [s] => .ok (s != "")
  | ["!", s] => .ok (s == "")
  | ["-n", s] => .ok (s != "")
  | ["-z", s] => .ok (s == "")
  | ["-e", name] => .ok (kind name).isSome
  | ["-f", name] => .ok (p.files.isFile p.cwd (.ofText name))
  | ["-r", name] => .ok (kind name).isSome
  | ["-w", name] => .ok (kind name).isSome
  | ["-d", name] => .ok (kind name == some .directory)
  | ["-h", name] => .ok (isLink p name)
  | ["-L", name] => .ok (isLink p name)
  | ["-x", name] => .ok
      (match kind name with
       | some (.program _) => true
       | some .directory => true
       | _ => false)
  | ["-s", name] => .ok
      (match p.files.read p.cwd (.ofText name) with
       | .ok bytes => !bytes.isEmpty
       | .error _ => false)
  | [a, "=", b] => .ok (a == b)
  | [a, "==", b] => .ok (a == b)
  | [a, "!=", b] => .ok (a != b)
  | [a, "-eq", b] => compareNumbers a b (· == ·)
  | [a, "-ne", b] => compareNumbers a b (· != ·)
  | [a, "-lt", b] => compareNumbers a b (· < ·)
  | [a, "-le", b] => compareNumbers a b (· ≤ ·)
  | [a, "-gt", b] => compareNumbers a b (· > ·)
  | [a, "-ge", b] => compareNumbers a b (· ≥ ·)
  | "!" :: rest => (simpleCondition p rest).map not
  | [a, "-a", b] => .ok (a != "" && b != "")
  | [a, "-o", b] => .ok (a != "" || b != "")
  | _ => .error "unexpected operator"

/-- The value of a condition: where it has more than four words, `-o` joins alternatives and `-a`
joins what each of them needs. -/
def condition (p : Process) (args : List String) : Except String Bool := do
  if args.length ≤ 4 then simpleCondition p args
  else
    let alternatives ← (args.splitOn "-o").mapM fun part => do
      return (← (part.splitOn "-a").mapM (simpleCondition p)).all id
    return alternatives.any id

/-- Tells by its code whether a condition holds. -/
def test : Tool := fun p =>
  match condition p p.args with
  | .ok true => p.complete false
  | .ok false => { p.complete false with ending := .exited 1 }
  | .error message => (p.complete false).complain 2 ("sh: 1: " ++ p.name ++ ": " ++ message)

/-- The condition between brackets. -/
def bracket : Tool := fun p =>
  match p.args.getLast? with
  | some "]" => test { p with args := p.args.dropLast }
  | _ => (p.complete false).complain 2 "sh: 1: [: missing ]"

/-- The value of a sum or comparison of two numbers; comparisons give 1 or 0. -/
def expression (a b : Int) (operator : String) : Option Int :=
  let truth (holds : Bool) : Option Int := some (if holds then 1 else 0)
  match operator with
  | "+" => some (a + b)
  | "-" => some (a - b)
  | "*" => some (a * b)
  | "/" => if b = 0 then none else some (Int.tdiv a b)
  | "%" => if b = 0 then none else some (Int.tmod a b)
  | "=" => truth (a == b)
  | "!=" => truth (a != b)
  | "<" => truth (a < b)
  | "<=" => truth (a ≤ b)
  | ">" => truth (a > b)
  | ">=" => truth (a ≥ b)
  | _ => none

/-- Writes the value of two numbers and an operator between them; zero counts as failure. -/
def expr : Tool := fun p =>
  match p.args with
  | [a, operator, b] =>
    match expression (Printf.number a) (Printf.number b) operator with
    | some n =>
      { (p.complete false).say ((toString n).toList ++ ['\n']) with
        ending := .exited (if n = 0 then 1 else 0) }
    | none => (p.complete false).complain 2 (p.name ++ ": syntax error")
  | [] => misused p 2 "missing operand"
  | _ => (p.complete false).complain 2 (p.name ++ ": syntax error")

/-! ### All tools -/

/-- Does nothing and ends with a code. -/
def constant (code : Nat) : Tool := fun p =>
  { p.complete false with ending := .exited code }

/-- The tools by name. -/
def table : List (String × Tool) :=
  [("cat", cat), ("sed", Sed.tool), ("grep", Grep.tool), ("head", head), ("tail", tail), ("wc", wc),
    ("sort", sort), ("tr", tr), ("seq", seq), ("expr", expr), ("cut", cut), ("uniq", uniq),
    ("tac", tac), ("rev", rev), ("tee", tee), ("printenv", printenv),
    ("ln", ln), ("readlink", readlink), ("rmdir", rmdir), ("unlink", unlink), ("chmod", chmod),
    ("mkdir", mkdir), ("rm", rm), ("touch", touch), ("ls", ls),
    ("cp", cp), ("mv", mv), ("basename", basename), ("dirname", dirname),
    ("test", test), ("[", bracket), ("true", constant 0), ("false", constant 1),
    ("sleep", constant 0),
    ("echo", fun p => put (p.complete false) (Printf.echo p.args)),
    ("printf", fun p => put (p.complete false) (Printf.printf p.args))]

/-- The tool with a name. -/
def find? (name : String) : Option Tool :=
  table.lookup name

end AsmExplorer.Tools
