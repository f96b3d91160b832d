import NativeGlue.Rehearsal.Utility.Basic

set_option autoImplicit false

/-! # Utilities for texts

Utilities that read files or the standard input and print what they make of it. -/

namespace NativeGlue.Utility

/-- Print files one after the other. -/
def cat : Utility where
  letters := "nu"
  run c := do
    let step (state : Nat × Nat) (path : String) : UtilityStep (Nat × Nat) := do
      match ← readInput path with
      | .error e =>
        warn c.name (path ++ ": " ++ e.reason)
        return (1, state.2)
      | .ok text =>
        if c.has 'n' then
          let lines := linesOf text
          print (unlines ((lines.zipIdx (state.2 + 1)).map fun (line, n) =>
            padLeft 6 n ++ "\t" ++ line))
          return (state.1, state.2 + lines.length)
        else
          print text
          return state
    return (← c.inputs.foldlM step (0, 0)).1

/-- The amount that an option asks for. -/
def amount (c : Call) (letter : Char) (what : String) : UtilityStep (Option (Bool × Nat)) := do
  match c.value? letter with
  | none => return none
  | some value =>
    let (fromStart, digits) := match value.toList with
      | '+' :: digits => (true, String.ofList digits)
      | '-' :: digits => (false, String.ofList digits)
      | _ => (false, value)
    match natural? digits with
    | some n => return some (fromStart, n)
    | none => stop c.name ("invalid number of " ++ what ++ ": " ++ quoted value) 1

/-- Print a part of each file; `cut` takes the part of the characters or of the lines. -/
def printParts (c : Call) (cut : {α : Type} → Bool → Nat → List α → List α) : UtilityStep Nat := do
  let lines ← amount c 'n' "lines"
  let chars ← amount c 'c' "bytes"
  let several := decide (1 < c.operands.length) && !c.has 'q' || c.has 'v'
  forEach c.inputs.zipIdx fun (path, index) => do
    match ← readInput path with
    | .error e =>
      if e = .isADirectory then warn c.name ("error reading " ++ quoted path ++ ": " ++ e.reason)
      else warn c.name ("cannot open " ++ quoted path ++ " for reading: " ++ e.reason)
      return 1
    | .ok text =>
      if several then
        let title := if path = "-" then "standard input" else path
        print ((if index = 0 then "" else "\n") ++ "==> " ++ title ++ " <==\n")
      match chars with
      | some (fromStart, n) => print (.ofList (cut fromStart n text.toList))
      | none =>
        let (fromStart, n) := lines.getD (false, 10)
        let kept := cut fromStart n (linesOf text)
        let all := unlines kept
        print (if Text.endsWith "\n" text || kept.getLast? != (linesOf text).getLast? then all
          else .ofList (all.toList.dropLast))
      return 0

/-- Print the beginning of files. -/
def head : Utility where
  letters := "qv"
  valued := "nc"
  long := [("lines", 'n'), ("bytes", 'c')]
  takesNumber := some 'n'
  run c :=
    let negative := ((c.value? 'n').orElse fun _ => c.value? 'c').any (Text.startsWith "-")
    printParts c fun _ n items => items.take (if negative then items.length - n else n)

/-- Print the end of files. -/
def tail : Utility where
  letters := "qv"
  valued := "nc"
  long := [("lines", 'n'), ("bytes", 'c')]
  takesNumber := some 'n'
  run c := printParts c fun fromStart n items =>
    items.drop (if fromStart then n - 1 else items.length - n)

/-- Count lines, words and bytes. -/
def wc : Utility where
  letters := "lwcm"
  run c := do
    let all := c.options.isEmpty
    let counts (text : String) : List Nat :=
      (if all || c.has 'l' then [(text.toList.filter (· == '\n')).length] else [])
        ++ (if all || c.has 'w' then [(Text.words text).length] else [])
        ++ (if all || c.has 'c' || c.has 'm' then [text.length] else [])
    let mut rows : List (String × Option (List Nat)) := []
    let mut status := 0
    for path in c.inputs do
      match ← readInput path with
      | .ok text => rows := rows ++ [(path, some (counts text))]
      | .error e =>
        status := 1
        rows := rows ++ [(path ++ ": " ++ e.reason, none)]
    let known := rows.filterMap Prod.snd
    let total := known.foldl (fun sums row =>
      if sums.isEmpty then row else sums.zipWith (· + ·) row) []
    let single := decide (c.inputs.length = 1) && decide ((counts "").length = 1)
    let fromInput := c.operands.isEmpty
    let width :=
      if single then 1
      else if fromInput then 7
      else ((total.map fun n => (toString n).length).foldl max 1)
    let line (row : List Nat) (name : String) : String :=
      Text.joinWith " " (row.map (padLeft width)) ++ (if name = "" then "" else " " ++ name) ++ "\n"
    for (name, row) in rows do
      match row with
      | some row => print (line row (if fromInput then "" else name))
      | none => warn c.name name
    if 1 < c.operands.length then print (line total "total")
    return status

/-- Print numbers in a row. -/
def seq : Utility where
  letters := "w"
  valued := "s"
  takesNumber := none
  run c := do
    let number (arg : String) : UtilityStep Int :=
      match arg.toInt? with
      | some n => return n
      | none => refuse c.name ("invalid floating point argument: " ++ quoted arg) 1
    let operands ← someOperands c "operand" 1
    let (first, step, last) ← match operands with
      | [last] => pure (1, 1, ← number last)
      | [first, last] => pure (← number first, 1, ← number last)
      | [first, step, last] => pure (← number first, ← number step, ← number last)
      | _ => refuse c.name ("extra operand " ++ quoted (operands.getD 3 "")) 1
    if step = 0 then
      refuse c.name ("invalid Zero increment value: " ++ quoted (operands.getD 1 "")) 1
    else
      let count := ((last - first).fdiv step + 1).toNat
      let numbers := (List.range count).map fun (i : Nat) => toString (first + step * (i : Int))
      let width := (numbers.map String.length).foldl max 0
      let shown := if c.has 'w' then numbers.map fun n =>
          .ofList (List.replicate (width - n.length) '0') ++ n
        else numbers
      unless shown.isEmpty do print (Text.joinWith ((c.value? 's').getD "\n") shown ++ "\n")
      return 0

/-- Print the lines of files in order. -/
def sort : Utility where
  letters := "rnub"
  valued := "o"
  long := [("reverse", 'r'), ("unique", 'u'), ("numeric-sort", 'n'), ("output", 'o')]
  refusal := 2
  run c := do
    let texts ← c.inputs.mapM fun path => do
      match ← readInput path with
      | .ok text => return linesOf text
      | .error e =>
        let verb := if e = .isADirectory then "read failed: " else "cannot read: "
        stop c.name (verb ++ path ++ ": " ++ e.reason) 2
    let value (line : String) : Int :=
      let cs := line.toList.dropWhile (· == ' ')
      let (negative, cs) := match cs with
        | '-' :: rest => (true, rest)
        | _ => (false, cs)
      let n := (cs.takeWhile Char.isDigit).foldl (fun n c => 10 * n + (c.toNat - '0'.toNat)) 0
      if negative then - (n : Int) else n
    let before (a b : String) : Bool :=
      if c.has 'n' then value a < value b || (value a == value b && decide (a ≤ b))
      else decide (a ≤ b)
    let sorted := texts.flatten.mergeSort fun a b => if c.has 'r' then before b a else before a b
    let kept := if c.has 'u' then sorted.foldr (fun line rest =>
        if rest.head? = some line then rest else line :: rest) []
      else sorted
    match c.value? 'o' with
    | none =>
      print (unlines kept)
      return 0
    | some path =>
      match ← writeOutput path .replace (unlines kept) with
      | none => return 0
      | some reason => stop c.name ("open failed: " ++ path ++ ": " ++ reason) 2

/-- Equal lines in a row, and how often each is there. -/
def runs (lines : List String) : List (String × Nat) :=
  lines.foldr (fun line rest => match rest with
    | (other, n) :: more => if other = line then (other, n + 1) :: more else (line, 1) :: rest
    | [] => [(line, 1)]) []

/-- Print each of several equal lines in a row once. -/
def uniq : Utility where
  letters := "cdu"
  run c := do
    match ← readInput (c.inputs.headD "-") with
    | .error e => stop c.name (c.inputs.headD "" ++ ": " ++ e.reason) 1
    | .ok text =>
      let kept := (runs (linesOf text)).filter fun (_, n) =>
        (!c.has 'd' || 1 < n) && (!c.has 'u' || n == 1)
      print (unlines (kept.map fun (line, n) =>
        if c.has 'c' then padLeft 7 n ++ " " ++ line else line))
      return 0

/-- The characters that a set of characters writes. -/
def charSet : List Char → List Char
  | '\\' :: 'n' :: cs => '\n' :: charSet cs
  | '\\' :: 't' :: cs => '\t' :: charSet cs
  | '\\' :: '0' :: cs => Char.ofNat 0 :: charSet cs
  | '\\' :: c :: cs => c :: charSet cs
  | a :: '-' :: b :: cs =>
    (List.range (b.toNat + 1 - a.toNat)).map (fun i => Char.ofNat (a.toNat + i)) ++ charSet cs
  | c :: cs => c :: charSet cs
  | [] => []

/-- Characters in a row that are equal and in a set, once. -/
def squeeze (set : List Char) : List Char → List Char
  | a :: b :: cs =>
    if a = b ∧ set.contains a then squeeze set (b :: cs) else a :: squeeze set (b :: cs)
  | cs => cs

/-- Replace, leave out or squeeze characters. -/
def tr : Utility where
  letters := "dscC"
  run c := do
    let operands ← someOperands c "operand" 1
    let inside (set : List Char) (ch : Char) : Bool :=
      set.contains ch != (c.has 'c' || c.has 'C')
    let first := charSet (operands.headD "").toList
    let text := (← readInput "-").toOption.getD ""
    match operands.tail with
    | [] =>
      if c.has 'd' then
        print (.ofList (text.toList.filter fun ch => !inside first ch))
        return 0
      else if c.has 's' then
        print (.ofList (squeeze first text.toList))
        return 0
      else
        warn c.name ("missing operand after " ++ quoted (operands.headD ""))
        modify (·.write 2 "Two strings must be given when translating.\n")
        modify (·.write 2 ("Try '" ++ c.name ++ " --help' for more information.\n"))
        return 1
    | second :: _ =>
      let second := charSet second.toList
      let replaced := text.toList.map fun ch =>
        if c.has 'c' || c.has 'C' then if first.contains ch then ch else second.getLastD ch
        else match (first.zipIdx.reverse.find? (·.1 == ch)) with
          | some (_, i) => (second[i]?).getD (second.getLastD ch)
          | none => ch
      print (.ofList (if c.has 's' then squeeze second replaced else replaced))
      return 0

/-- Whether a number is in a list of ranges. -/
def inRanges (list : String) (n : Nat) : Bool :=
  (Text.splitChar ',' list).any fun range => match Text.splitChar '-' range with
    | [only] => only.toNat? == some n
    | [first, last] =>
      (first.toNat?.getD 1) ≤ n && (last == "" || n ≤ last.toNat?.getD 0)
    | _ => false

/-- Print parts of lines. -/
def cut : Utility where
  letters := "s"
  valued := "dfcb"
  run c := do
    let keep (list : String) {α : Type} (items : List α) : List α :=
      (items.zipIdx 1).filterMap fun (item, n) => if inRanges list n then some item else none
    let chars := (c.value? 'c').orElse fun _ => c.value? 'b'
    let f : String → Option String ← match chars, c.value? 'f' with
      | some list, _ => pure fun line => some (.ofList (keep list line.toList))
      | none, some list =>
        let separator := ((c.value? 'd').bind fun d => d.toList.head?).getD '\t'
        pure fun line =>
          if line.toList.contains separator then
            some (Text.joinWith (.singleton separator)
              (keep list (Text.splitChar separator line)))
          else if c.has 's' then none else some line
      | none, none =>
        refuse c.name "you must specify a list of bytes, characters, or fields" 1
    forEach c.inputs fun path => do
      match ← readInput path with
      | .ok text =>
        print (unlines ((linesOf text).filterMap f))
        return 0
      | .error e =>
        warn c.name (path ++ ": " ++ e.reason)
        return 1

/-- Print the standard input, and write it to files as well. -/
def tee : Utility where
  letters := "ai"
  run c := do
    let text := (← readInput "-").toOption.getD ""
    let status ← forEach c.operands fun path => do
      match ← writeOutput path (if c.has 'a' then .append else .replace) text with
      | none => return 0
      | some reason =>
        warn c.name (path ++ ": " ++ reason)
        return 1
    print text
    return status

/-- Whether characters occur in a row among others. -/
def occursIn (body : List Char) : List Char → Bool
  | [] => body.isEmpty
  | c :: cs => body.isPrefixOf (c :: cs) || occursIn body cs

/-- Print the lines with a text in them. -/
def grep : Utility where
  letters := "cvqixFEns"
  refusal := 2
  run c := do
    match c.operands with
    | [] =>
      modify (·.write 2 ("Usage: " ++ c.name ++ " [OPTION]... PATTERNS [FILE]...\n"))
      modify (·.write 2 ("Try '" ++ c.name ++ " --help' for more information.\n"))
      return 2
    | pattern :: paths =>
      let fold (s : String) : List Char :=
        if c.has 'i' then s.toList.map Char.toLower else s.toList
      let (atStart, body) := match fold pattern with
        | '^' :: body => (true, body)
        | body => (false, body)
      let (atEnd, body) := match body.reverse with
        | '$' :: front => (true, front.reverse)
        | _ => (false, body)
      let fits (cs : List Char) : Bool :=
        if (atStart && atEnd) || c.has 'x' then cs == body
        else if atStart then body.isPrefixOf cs
        else if atEnd then body.isSuffixOf cs
        else occursIn body cs
      let several := decide (1 < paths.length)
      let mut found := false
      let mut failed := false
      for path in if paths.isEmpty then ["-"] else paths do
        match ← readInput path with
        | .error e =>
          failed := true
          warn c.name (path ++ ": " ++ e.reason)
        | .ok text =>
          let kept := ((linesOf text).zipIdx 1).filter fun (line, _) =>
            fits (fold line) != c.has 'v'
          if !kept.isEmpty then found := true
          let front := if several then path ++ ":" else ""
          unless c.has 'q' do
            if c.has 'c' then print (front ++ toString kept.length ++ "\n")
            else print (unlines (kept.map fun (line, n) =>
              front ++ (if c.has 'n' then toString n ++ ":" else "") ++ line))
      return if failed then 2 else if found then 0 else 1

end NativeGlue.Utility
