import AsmExplorer.Machine.Shell.Builtin
import AsmExplorer.Machine.Shell.Parse
import AsmExplorer.Machine.Shell.Sum
import AsmExplorer.Machine.Tools

/-!
# Running shell scripts

The meaning of scripts as functions on `Shell.State`.  Programs are found in the file system, along
the variable `PATH`, and are run by the table of tools that is given; a shell that a script calls
runs by the same rules.  Every nested command and every round of a loop takes one unit of `fuel`; a
script that needs more counts as killed.
-/

namespace AsmExplorer.Shell

/-- The programs that a script can call, by name. -/
abbrev Programs := String → Option Tool

/-- The commands that the shell runs itself although they are programs as well. -/
def innerTools : List String :=
  ["echo", "printf", "test", "["]

/-- The wording of a file that cannot be opened. -/
def openFault (reads : Bool) (target : String) (fault : IoFault) : String :=
  let reason :=
    match fault with
    | .notFound | .notADirectory => if reads then "No such file" else "Directory nonexistent"
    | fault => fault.plainMessage
  (if reads then "cannot open " else "cannot create ") ++ target ++ ": " ++ reason

/-- Opens a file for what a number writes. -/
def openSink (s : State) (number : Nat) (append : Bool) (target : List Char) : State × Bool :=
  let path := Path.ofChars target
  let written : Except IoFault (FileTree × Names) := do
    let files ← s.files.write s.cwd path append []
    return (files, ← s.files.walk s.cwd path)
  let name := String.ofList target
  if name = "/dev/stdout" then (s.redirect number ((s.sinks.lookup 1).getD .void), true)
  else if name = "/dev/stderr" then (s.redirect number ((s.sinks.lookup 2).getD .void), true)
  else
    match written with
    | .error fault => (s.complain 2 (openFault false name fault), false)
    | .ok (files, names) =>
      let sink := if files.find? names = some .void then .void else .file names
      ({ s with files }.redirect number sink, true)

/-- Does one redirection, with its target as a text. -/
def redirectTo (s : State) (r : Redirect) (target : List Char) : State × Bool :=
  match r.kind with
  | .write => openSink s r.number false target
  | .append => openSink s r.number true target
  | .here => ({ s with input := Text.utf8 target }, true)
  | .read =>
    match if Process.isInput (String.ofList target) then .ok s.input
      else s.files.read s.cwd (Path.ofChars target) with
    | .ok bytes => ({ s with input := bytes }, true)
    | .error fault => (s.complain 2 (openFault true (String.ofList target) fault), false)
  | .copy =>
    match Text.nat? target with
    | some n =>
      if r.number = 0 then (s, true)
      else
        match s.sinks.lookup n with
        | some sink => (s.redirect r.number sink, true)
        | none => (s.complain 2 (String.ofList target ++ ": Bad file descriptor"), false)
    | none => (s.redirect r.number .void, true)

/-- Where a program is found: a name with a slash is a path, any other name is looked for in the
directories of `PATH`.  Where none holds it, the fault is the last that says more than missing. -/
def locate (s : State) (name : List Char) : Except IoFault String :=
  let at_ (p : Path) : Except IoFault String := do
    match ← s.files.lookup s.cwd p with
    | (_, .program tool) => .ok tool
    | _ => .error .permissionDenied
  if name.contains '/' then at_ (Path.ofChars name)
  else
    let places := ((s.get? "PATH").getD []).splitOn ':'
    places.foldr
      (fun place other =>
        match at_ ((Path.ofChars place).join (Path.ofChars name)), other with
        | .ok tool, _ => .ok tool
        | .error .notADirectory, _ => other
        | .error fault, .error .notFound => .error fault
        | .error _, _ => other)
      (.error .notFound)

/-- Runs a program with the input, the environment and the files of a script. -/
def State.callTool (s : State) (tool : Tool) (settings : List (String × List Char)) (name : String)
    (args : List (List Char)) : State :=
  let env := (settings.foldl (fun s (n, value) => (s.set n value).publish n) s).environment
  let c := tool
    { name, args := args.map String.ofList, env, cwd := s.cwd, stdin := s.input, files := s.files }
  let s := { s with files := c.files, input := c.unread }
  let s := c.written.foldl
    (fun s (stream, bytes) => s.put (if stream = .output then 1 else 2) bytes) s
  match c.ending with
  | .exited code => s.withStatus code
  | .killed => s.withStatus 137

/-- The use of the value of a parameter. -/
def useValue (use : ParamUse) (quoted : Bool) (value : Option (List Char)) (word : List Piece) :
    List Piece :=
  let plain := Piece.ofValue quoted (value.getD [])
  let counts (colon : Bool) : Bool := value.any fun v => !(colon && v.isEmpty)
  match use with
  | .value => plain
  | .length => Piece.ofValue quoted (Text.decimal (value.getD []).length)
  | .orElse colon => if counts colon then plain else word
  | .orStore colon => if counts colon then plain else word
  | .ifSet colon => if counts colon then word else Piece.ofValue quoted []
  | .orFail _ => plain
  | .dropStart longest =>
    Piece.ofValue quoted (Glob.dropStart longest (Piece.pattern word) (value.getD []))
  | .dropEnd longest =>
    Piece.ofValue quoted (Glob.dropEnd longest (Piece.pattern word) (value.getD []))

/-- Whether a word holds the output of a command. -/
def callsCommand (w : Word) : Bool :=
  w.any fun
    | .output _ _ => true
    | _ => false

/-- Whether the value of a parameter is missing. -/
def isMissing (colon : Bool) (value : Option (List Char)) : Bool :=
  !(value.any fun v => !(colon && v.isEmpty))

/-- The pieces of all arguments, each a word of its own. -/
def paramPieces (s : State) (quoted : Bool) : List Piece :=
  (s.params.map (Piece.ofValue quoted)).intersperse [.separator] |>.flatten

/-- A script as a process is given it: its name, its arguments, and its text or the file that holds
it. -/
structure Invocation where
  /-- The name. -/
  name : String
  /-- The arguments. -/
  params : List String
  /-- The script. -/
  script : Except (String × IoFault) (List Char)

/-- Reads the arguments of a shell. -/
def Invocation.ofProcess (p : Process) : List String → Invocation
  | "-c" :: script :: name :: params => ⟨name, params, .ok script.toList⟩
  | ["-c", script] => ⟨p.name, [], .ok script.toList⟩
  | file :: params =>
    if file.startsWith "-" then Invocation.ofProcess p params
    else
      ⟨file, params,
        match p.files.read p.cwd (.ofText file) with
        | .ok bytes => .ok (Text.decodeLossy bytes)
        | .error fault => .error (file, fault)⟩
  | [] => ⟨p.name, [], .ok (Text.decodeLossy p.stdin)⟩

/-- The state in which a script starts. -/
def State.start (p : Process) (i : Invocation) : State where
  files := p.files
  cwd := p.cwd
  input := p.stdin
  name := i.name
  params := i.params.map String.toList
  vars := p.env.map fun (name, value) => (name, { value := value.toList, exported := true })

/-- What a process leaves whose script came to its end. -/
def State.completion (s : State) : Completion where
  files := s.files
  written := s.written.reverse
  unread := s.input
  ending := if s.flow = .killed then .killed else .exited s.status

mutual

/-- The pieces of a part of a word. -/
def expandPart (programs : Programs) (fuel : Nat) (s : State) (part : WordPart) :
    State × List Piece :=
  match fuel with
  | 0 => ({ s with flow := .killed }, [])
  | fuel + 1 =>
    match part with
    | .text quoted cs =>
      let pieces := cs.map fun c => Piece.char c (if quoted then .quoted else .literal)
      (s, if quoted then .opening :: pieces else pieces)
    | .output quoted script =>
      match parse? script with
      | none => (s.fail 2 "Syntax error", [])
      | some c =>
        let (s, bytes) := capture programs fuel s c
        let kept := (bytes.reverse.dropWhile (· == 10)).reverse
        (s, Piece.ofValue quoted (Text.decodeLossy kept))
    | .sum quoted expression =>
      let (s, pieces) := expandWord programs fuel s expression
      let value (name : List Char) : Int := Printf.number (String.ofList
        ((s.param? (String.ofList name)).getD []))
      match sum value (Piece.text pieces) with
      | .ok n => (s, Piece.ofValue quoted (toString n).toList)
      | .error fault =>
        (s.fail 2 ("arithmetic expression: " ++ fault.message ++ ": \"" ++
          String.ofList (Piece.text pieces) ++ "\""), [])
    | .param quoted name use word =>
      if use = .value ∧ (name = "@" ∨ name = "*" ∧ !quoted) then (s, paramPieces s quoted)
      else
        let value :=
          if name = "@" ∨ name = "*" then some (Text.joinWith [' '] s.params) else s.param? name
        let (s, pieces) := expandWord programs fuel s word
        let s :=
          if value.isNone ∧ use.needsValue ∧ s.options.contains 'u' then
            s.fail 2 (name ++ ": parameter not set")
          else s
        let s :=
          match use with
          | .orStore colon =>
            if isMissing colon value then s.set name (Piece.text pieces) else s
          | .orFail colon =>
            if isMissing colon value then
              s.fail 2 (name ++ ": " ++ (if word.isEmpty then "parameter not set or null"
                else String.ofList (Piece.text pieces)))
            else s
          | _ => s
        (s, useValue use quoted value pieces)

/-- The pieces of a word. -/
def expandWord (programs : Programs) (fuel : Nat) (s : State) (word : Word) :
    State × List Piece :=
  match fuel with
  | 0 => ({ s with flow := .killed }, [])
  | fuel + 1 =>
    word.foldl
      (fun (s, pieces) part =>
        let (s, more) := expandPart programs fuel s part
        (s, pieces ++ more))
      (s, [])

/-- Runs a command on its own, and gives what it writes. -/
def capture (programs : Programs) (fuel : Nat) (s : State) (c : Command) :
    State × List UInt8 :=
  match fuel with
  | 0 => ({ s with flow := .killed }, [])
  | fuel + 1 =>
    let n := s.pipes.length
    let inner := run programs fuel ({ s with pipes := s.pipes ++ [[]] }.redirect 1 (.pipe n)) c
    (s.rejoin inner, (inner.pipes.getD n []).reverse)

/-- Runs a command. -/
def run (programs : Programs) (fuel : Nat) (s : State) (c : Command) : State :=
  match fuel with
  | 0 => { s with flow := .killed }
  | fuel + 1 =>
    match c with
    | .simple settings words =>
      let (s, fields) := words.foldl
        (fun (s, fields) word =>
          let (s, pieces) := expandWord programs fuel s word
          (s, fields ++ Piece.fields s.separators pieces))
        (s, [])
      let (s, values) := settings.foldl
        (fun (s, values) (name, word) =>
          let (s, pieces) := expandWord programs fuel s word
          (s, values ++ [(name, Piece.text pieces)]))
        (s, [])
      s.andThen fun s =>
        match fields with
        | [] =>
          let ran := (words ++ settings.map (·.2)).any callsCommand
          ((values.foldl (fun s (name, value) => s.set name value) s).withStatus
            (if ran then s.status else 0)).checked
        | name :: args => (call programs fuel s values name args).checked
    | .sequence cs => cs.foldl (fun s c => s.andThen fun s => run programs fuel s c) s
    | .pipeline cs =>
      let (s, _, _) := cs.foldl
        (fun (s, input, left) c =>
          let entered := { s with input := input.getD s.input }
          let (done, bytes) :=
            if left ≤ 1 then (s.rejoin (run programs fuel entered c), [])
            else capture programs fuel entered c
          ({ done with input := if input.isSome then s.input else done.input },
            some bytes, left - 1))
        (s, none, cs.length)
      s.checked
    | .negated c =>
      (s.watch fun s => run programs fuel s c).andThen fun s =>
        s.withStatus (if s.status = 0 then 1 else 0)
    | .andThen a b =>
      (s.watch fun s => run programs fuel s a).andThen fun s =>
        if s.status = 0 then run programs fuel s b else s
    | .orElse a b =>
      (s.watch fun s => run programs fuel s a).andThen fun s =>
        if s.status = 0 then s else run programs fuel s b
    | .branch test body otherwise =>
      (s.watch fun s => run programs fuel s test).andThen fun s =>
        if s.status = 0 then run programs fuel s body
        else
          match otherwise with
          | some c => run programs fuel s c
          | none => s.withStatus 0
    | .loop until_ test body => rounds programs fuel until_ test body (s.withStatus 0)
    | .each name words body =>
      let (s, values) :=
        match words with
        | none => (s, s.params)
        | some words => words.foldl
          (fun (s, fields) word =>
            let (s, pieces) := expandWord programs fuel s word
            (s, fields ++ Piece.fields s.separators pieces))
          (s, [])
      s.andThen fun s =>
        (values.foldl
          (fun s value =>
            s.nextRound.andThen fun s => run programs fuel (s.set name value) body)
          (s.withStatus 0)).leaveLoop
    | .select word clauses =>
      let (s, pieces) := expandWord programs fuel s word
      let text := Piece.text pieces
      let (s, found) := clauses.foldl
        (fun (s, found) (patterns, body) =>
          patterns.foldl
            (fun (s, found) pattern =>
              match found with
              | some c => (s, some c)
              | none =>
                let (s, pieces) := expandWord programs fuel s pattern
                (s, if Glob.fits (Piece.pattern pieces) text then some body else none))
            (s, found))
        (s, none)
      s.andThen fun s => run programs fuel (s.withStatus 0) (found.getD .nothing)
    | .subshell c => (s.rejoin (run programs fuel s c)).checked
    | .redirected c redirects =>
      let (inner, done) := redirects.foldl
        (fun (inner, done) r =>
          if done then
            let (inner, pieces) := expandWord programs fuel inner r.target
            redirectTo inner r (Piece.text pieces)
          else (inner, false))
        (s, true)
      let word :=
        match c with
        | .simple _ ([.text _ name] :: _) => String.ofList name
        | _ => ""
      let inner :=
        if done then inner.andThen fun inner => run programs fuel inner c
        else if Builtin.isSpecial word then { inner with flow := .exit }
        else inner
      let reads := redirects.any fun r => r.number == 0
      if word = "exec" then inner
      else { inner with sinks := s.sinks, input := if reads then s.input else inner.input }
    | .define name body =>
      { s with functions := (name, body) :: s.functions.filter (·.1 != name), status := 0 }

/-- Runs the rounds of a loop. -/
def rounds (programs : Programs) (fuel : Nat) (until_ : Bool) (test body : Command) (s : State) :
    State :=
  match fuel with
  | 0 => { s with flow := .killed }
  | fuel + 1 =>
    let tested := s.watch fun s => run programs fuel s test
    if tested.flow ≠ .next then tested.leaveLoop
    else if (tested.status = 0) = until_ then tested.withStatus s.status
    else
      let round := (run programs fuel tested body).nextRound
      if round.flow = .next then rounds programs fuel until_ test body round
      else round.leaveLoop

/-- Runs a command by its name: one that is defined in the script, one of the shell, or a
program. -/
def call (programs : Programs) (fuel : Nat) (s : State) (settings : List (String × List Char))
    (name : List Char) (args : List (List Char)) : State :=
  match fuel with
  | 0 => { s with flow := .killed }
  | fuel + 1 =>
    let word := String.ofList name
    let inside (f : State → State) : State :=
      let done := f (settings.foldl (fun s (n, value) => s.set n value) s)
      if Builtin.isSpecial word then done
      else
        { done with
          vars := done.vars.filter (fun v => !(settings.any (·.1 == v.1))) ++
            s.vars.filter (fun v => settings.any (·.1 == v.1)) }
    match s.functions.lookup word with
    | some body => inside fun s =>
      let done := (run programs fuel { s with params := args, hidden := [] } body).unhide
      { done with
        params := s.params
        hidden := s.hidden
        flow := if done.flow = .back then .next else done.flow }
    | none =>
      match word, args with
      | "eval", args => inside fun s =>
        match parse? (Text.joinWith [' '] args) with
        | some c => run programs fuel (s.withStatus 0) c
        | none => s.fail 2 "Syntax error"
      | ".", file :: _ => inside fun s =>
        match s.files.read s.cwd (Path.ofChars file) with
        | .error fault => s.fail 2 (".: " ++ openFault true (String.ofList file) fault)
        | .ok bytes =>
          match parse? (Text.decodeLossy bytes) with
          | some c => run programs fuel s c
          | none => s.fail 2 "Syntax error"
      | "command", name :: args =>
        if name = ['-', 'v'] then
          match args with
          | [] => s.withStatus 0
          | sought :: _ =>
            match locate s sought with
            | .ok _ => (s.put 1 (Text.utf8 (sought ++ ['\n']))).withStatus 0
            | .error _ => s.withStatus 127
        else call programs fuel { s with functions := [] } settings name args
      | "exec", name :: args =>
        match Builtin.find? (String.ofList name), locate s name with
        | none, .error .notFound =>
          s.fail 127 ("exec: " ++ String.ofList name ++ ": not found")
        | _, _ =>
          let done := call programs fuel { s with functions := [] } settings name args
          if done.flow = .killed then done else { done with flow := .exit, atExit := none }
      | word, args =>
        match Builtin.find? word with
        | some f => inside (f args)
        | none =>
          match if innerTools.contains word then Tools.find? word else none with
          | some tool => s.callTool tool settings word args
          | none =>
            match locate s name with
            | .error fault =>
              match fault with
              | .notFound | .notADirectory => s.complain 127 (word ++ ": not found")
              | fault =>
                let refused := fault == .permissionDenied && name.contains '/'
                s.complain (if refused then 126 else 127) (word ++ ": " ++ fault.plainMessage)
            | .ok program =>
              if program = "sh" then
                s.callTool (fun p => script programs fuel p) settings word args
              else
                match programs program with
                | some tool => s.callTool tool settings word args
                | none => s.complain 126 (word ++ ": Exec format error")

/-- Runs the script of a process. -/
def script (programs : Programs) (fuel : Nat) (p : Process) : Completion :=
  match fuel with
  | 0 => { p.complete false with ending := .killed }
  | fuel + 1 =>
    let i := Invocation.ofProcess p p.args
    let s := State.start p i
    match i.script with
    | .error (file, fault) =>
      let complaint := p.name ++ ": 0: " ++ openFault true file fault ++ "\n"
      ((s.put 2 (Text.utf8 complaint.toList)).withStatus 2).completion
    | .ok text =>
      match parse? text with
      | none => (s.complain 2 "Syntax error").completion
      | some c =>
        let done := run programs fuel s c
        match done.atExit.bind parse? with
        | none => done.completion
        | some last =>
          if done.flow = .killed then done.completion
          else
            let after := run programs fuel { done with flow := .next, atExit := none } last
            (if after.flow = .next then after.withStatus done.status else after).completion

end

/-- The greatest number of nested commands and rounds of loops in a script. -/
def patience : Nat := 100000

/-- The shell as a program. -/
def tool (programs : Programs) : Tool :=
  script programs patience

end AsmExplorer.Shell
