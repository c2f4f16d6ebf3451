import TupleSpace.Toml.Item
import TupleSpace.Toml.Scalar

/-!
# Reading TOML

A document is a sequence of lines: comments, headers, and keys with values. Values nest, up to a
fixed depth.
-/

namespace TupleSpace.Toml

/-- Dotted keys are shorter than this, and values nest less deeply. -/
def depthLimit : Nat := 80

def isBareChar (c : Char) : Bool := c.isAlphanum || c = '_' || c = '-'

def readSimpleKey (text : List Char) : Option (List Char × List Char) :=
  match text with
  | '"' :: rest => readBasic text.length rest
  | '\'' :: rest => readLiteral rest
  | text =>
      let key := text.takeWhile isBareChar
      if key.isEmpty then none else some (key, text.dropWhile isBareChar)

def readKeys : Nat → List Char → Option (List String × List Char)
  | 0, _ => none
  | rounds + 1, text => do
      let (key, rest) ← readSimpleKey (skipBlanks text)
      match skipBlanks rest with
      | '.' :: rest => do
          let (keys, rest) ← readKeys rounds rest
          some (String.ofList key :: keys, rest)
      | rest => some ([String.ofList key], rest)

def readKey (text : List Char) : Option (List String × List Char) := readKeys (depthLimit - 1) text

def skipLines (isComment : Bool) : List Char → List Char
  | [] => []
  | '\r' :: '\n' :: rest => skipLines false rest
  | '\n' :: rest => skipLines false rest
  | c :: rest =>
      if isComment then if isTextChar c then skipLines true rest else c :: rest
      else if isBlank c then skipLines false rest
      else if c = '#' then skipLines true rest
      else c :: rest

mutual

/-- Reads a value inside as many others as `depth` says. Each round uses a character up. -/
def readValue : Nat → Nat → List Char → Option (Item × List Char)
  | 0, _, _ => none
  | rounds + 1, depth, text =>
      match text with
      | 't' :: 'r' :: 'u' :: 'e' :: rest => some (.bool true, rest)
      | 'f' :: 'a' :: 'l' :: 's' :: 'e' :: rest => some (.bool false, rest)
      | '[' :: rest =>
          if depthLimit ≤ depth + 1 then none
          else (readItems rounds (depth + 1) (skipLines false rest)).map
            (fun (items, rest) => (.array items, rest))
      | '\x7b' :: rest =>
          if depthLimit ≤ depth + 1 then none
          else match skipBlanks rest with
            | '\x7d' :: rest => some (.table .value [], rest)
            | rest => do
                let (pairs, rest) ← readPairs rounds (depth + 1) rest
                let members ← inlineMembers pairs []
                some (.table .value members, rest)
      | text =>
          match readText text with
          | some (content, rest) => some (.text (String.ofList content), rest)
          | none =>
              match skipMoment text with
              | some rest => some (.moment, rest)
              | none =>
                  (readNumber text).map fun
                    | (.integer number, rest) => (.integer number, rest)
                    | (.float, rest) => (.float, rest)

/-- Reads items up to the closing bracket. A comma may follow the last one. -/
def readItems : Nat → Nat → List Char → Option (List Item × List Char)
  | 0, _, _ => none
  | rounds + 1, depth, text =>
      match text with
      | ']' :: rest => some ([], rest)
      | text => do
          let (item, rest) ← readValue rounds depth text
          match skipLines false rest with
          | ']' :: rest => some ([item], rest)
          | ',' :: rest => do
              let (items, rest) ← readItems rounds depth (skipLines false rest)
              some (item :: items, rest)
          | _ => none

/-- Reads keys with values up to the closing brace, all on one line. -/
def readPairs : Nat → Nat → List Char → Option (List (List String × Item) × List Char)
  | 0, _, _ => none
  | rounds + 1, depth, text => do
      let (keys, rest) ← readKey text
      let (item, rest) ← readValue rounds depth (skipBlanks (← skipChar '=' rest))
      match skipBlanks rest with
      | '\x7d' :: rest => some ([(keys, item)], rest)
      | ',' :: rest => do
          let (pairs, rest) ← readPairs rounds depth rest
          some ((keys, item) :: pairs, rest)
      | _ => none

end

/-- The text behind the end of a line on which nothing but a comment is left. -/
def endLine? (text : List Char) : Option (List Char) :=
  let rest := match skipBlanks text with
    | '#' :: rest => rest.dropWhile isTextChar
    | rest => rest
  match rest with
  | [] => some []
  | rest => newline? rest

def readLine (document : Document) (text : List Char) : Option (Document × List Char) :=
  match text with
  | '[' :: '[' :: rest => do
      let (path, rest) ← readKey rest
      let rest ← endLine? (← skipChar ']' (← skipChar ']' rest))
      some (← document.enterElement path, rest)
  | '[' :: rest => do
      let (path, rest) ← readKey rest
      let rest ← endLine? (← skipChar ']' rest)
      some (← document.enterTable path, rest)
  | text => do
      let (path, rest) ← readKey text
      let (item, rest) ← readValue text.length 0 (skipBlanks (← skipChar '=' rest))
      let rest ← endLine? rest
      some (← document.add path item, rest)

def readDocument : Nat → Document → List Char → Option Document
  | 0, _, _ => none
  | rounds + 1, document, text =>
      match skipBlanks text with
      | [] => some document
      | '#' :: rest => (endLine? ('#' :: rest)).bind (readDocument rounds document)
      | rest =>
          match newline? rest with
          | some rest => readDocument rounds document rest
          | none =>
              (readLine document rest).bind
                (fun (document, rest) => readDocument rounds document rest)

/-- The members of a document, which may start with a byte order mark. -/
def read? (text : List Char) : Option Members :=
  let text := match text with
    | '\ufeff' :: rest => rest
    | text => text
  (readDocument (text.length + 1) {} text).map (·.members)

end TupleSpace.Toml
