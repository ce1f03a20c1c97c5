import Schemata.NodeRegistry
import Schemata.Proofs.Source.Rebuilding

/-!
# Reading modules

A module is read as a program: the closures that fill its registry, the closures that build the
roots by name, and the list of names.  The lines of a module spell its tokens one after the other,
and a function is read back from the tokens of its closures.
-/

namespace Schemata.Source

open Text

def piece (text : String) : List Token :=
  (tokens? text).getD []

def fixed (lines : List String) : List Token :=
  lines.flatMap fun line => piece (line ++ "\n")

/-! ## Closures -/

/-- What building a term results in: a node, or the failure that is passed on. -/
def Term.result? (term : Term) : Option (Except SyntaxError Node) :=
  match term.value with
  | .ok (.node node) => some (.ok node)
  | .error (.failed error) => some (.error error)
  | _ => none

abbrev Closure := String × Except SyntaxError Node

/-- What stands around a key and the closure under it. -/
structure Frame where
  opening : String
  middle : String
  closing : String

def registration : Frame :=
  ⟨"registry.insert(", ",", ");"⟩

def selection : Frame :=
  ⟨"", "=>", ","⟩

namespace Frame

def closure? (frame : Frame) : Reader Closure := fun tokens => do
  match ← tokens.dropPrefix? (piece frame.opening) with
  | .text key :: rest =>
      let rest ← rest.dropPrefix? (piece frame.middle)
      let rest ← rest.dropPrefix? (piece "|| Ok(")
      let (term, rest) ← term? (rest.length + 1) rest
      let rest ← rest.dropPrefix? (piece ")")
      let rest ← rest.dropPrefix? (piece frame.closing)
      return ((key, ← term.result?), rest)
  | _ => none

def closures (frame : Frame) : Nat → List Token → List Closure × List Token
  | 0, tokens => ([], tokens)
  | turns + 1, tokens =>
      match frame.closure? tokens with
      | some (closure, rest) => (closures frame turns rest).map (closure :: ·) id
      | none => ([], tokens)

/-- The closures of a function with fixed lines above and below them. -/
def function? (frame : Frame) (head tail : List String) : Reader (List Closure) := fun tokens => do
  let tokens ← tokens.dropPrefix? (fixed head)
  let (closures, tokens) := frame.closures tokens.length tokens
  let tokens ← tokens.dropPrefix? (fixed tail)
  return (closures, tokens)

end Frame

/-! ## Modules -/

/-- A module as the program that it is. -/
structure Module where
  /-- What the registry is filled with, in order. -/
  entries : List Closure
  /-- What the roots are built by, the first one under a name being the one that is chosen. -/
  arms : List Closure
  names : List String

namespace Module

def imports : List String :=
  ["#[allow(unused_imports)]",
    "use castor_core::\x7b",
    "    BuiltIn, CastingStrategy, DateTimeFormat, Direction, Discriminator, InvalidSyntax, " ++
      "LiteralValue,",
    "    Node, NodeRegistry, Pattern, Property, StructKind, Validator,",
    "\x7d;"]

def registryHead : List String :=
  ["pub fn registry() -> NodeRegistry \x7b",
    "    let mut registry = NodeRegistry::new();"]

def registryTail : List String :=
  ["    registry",
    "\x7d"]

def schemaHead : List String :=
  ["pub fn schema(name: &str) -> Option<Result<Node, InvalidSyntax>> \x7b",
    "    let build: fn() -> Result<Node, InvalidSyntax> = match name \x7b"]

def schemaTail : List String :=
  ["        _ => return None,",
    "    \x7d;",
    "    Some(build())",
    "\x7d"]

def namesHead : List String :=
  ["pub fn names() -> &'static [&'static str] \x7b"]

def namesTail : List String :=
  ["\x7d"]

def content? : Term → Option String
  | .text content => some content
  | _ => none

def names? : Reader (List String) := fun tokens => do
  let tokens ← tokens.dropPrefix? (fixed namesHead)
  let tokens ← tokens.dropPrefix? (piece "&")
  match ← term? (tokens.length + 1) tokens with
  | (.array items, rest) => return (← items.mapM content?, ← rest.dropPrefix? (fixed namesTail))
  | _ => none

/-- The module that a text is. -/
def read (text : String) : Option Module := do
  let tokens ← (← tokens? text).dropPrefix? (fixed imports)
  let (entries, tokens) ← registration.function? registryHead registryTail tokens
  let (arms, tokens) ← selection.function? schemaHead schemaTail tokens
  match ← names? tokens with
  | (names, []) => return { entries, arms, names }
  | _ => none

/-- The registry that a module builds. -/
def registry (module : Module) : NodeRegistry :=
  module.entries.foldl (fun registry closure => registry.insert closure.1 closure.2) {}

/-- What building the root under a name results in. -/
def schema (module : Module) (name : String) : Option (Except SyntaxError Node) :=
  (module.arms.find? fun closure => closure.1 == name).map Prod.snd

end Module

/-! ## Lines -/

/-- Lines that spell some tokens, whatever stands below them. -/
def Passes (lines : List String) (tokens : List Token) : Prop :=
  ∀ ⦃rest later⦄, Spells rest later →
    Spells (lines.flatMap (fun line => line.toList ++ ['\n']) ++ rest) (tokens ++ later)

section

variable {lines lines' : List String} {line : String} {tokens tokens' : List Token}

theorem Passes.nil : Passes [] [] :=
  fun _ _ spells => spells

theorem Passes.append (above : Passes lines tokens) (below : Passes lines' tokens') :
    Passes (lines ++ lines') (tokens ++ tokens') := by
  intro rest later spells
  rw [List.flatMap_append, List.append_assoc, List.append_assoc]
  exact above (below spells)

theorem Passes.cons (above : Passes [line] tokens) (below : Passes lines tokens') :
    Passes (line :: lines) (tokens ++ tokens') :=
  above.append below

theorem Passes.skip (above : Passes [line] []) (below : Passes lines tokens) :
    Passes (line :: lines) tokens :=
  above.cons below

theorem Passes.map {α : Type} {items : List α} {lineOf : α → String} {tokensOf : α → List Token}
    (each : ∀ item ∈ items, Passes [lineOf item] (tokensOf item)) :
    Passes (items.map lineOf) (items.flatMap tokensOf) := by
  induction items with
  | nil => exact .nil
  | cons item rest ih =>
      obtain ⟨here, later⟩ := List.forall_mem_cons.mp each
      exact here.cons (ih later)

/-- A line that spells some tokens before its end. -/
theorem Covers.passes (covers : Covers line.toList tokens) : Passes [line] tokens := by
  intro rest later spells
  have first : next? ('\n' :: rest) = some (none, rest) := rfl
  have ended : Spells ('\n' :: rest) later := .step first (by simp) spells
  have boundary : isBoundary ('\n' :: rest) = true := by cases rest <;> rfl
  simpa using covers boundary ended

end

instance : DecidablePred IsPlain := fun text =>
  List.decidableBAll _ text

theorem piece_ofList (text : List Char) :
    piece (String.ofList text) = (lex text.length text).getD [] := by
  rw [piece, tokens?, String.toList_ofList]

theorem piece_line (line : List Char) : piece (String.ofList line ++ "\n") =
    (lex (line ++ ['\n']).length (line ++ ['\n'])).getD [] :=
  (congrArg piece String.ofList_append.symm).trans (piece_ofList _)

section

variable {line : List Char}

theorem passes_of_lex {tokens : List Token} (plain : IsPlain line)
    (read : lex (line ++ ['\n']).length (line ++ ['\n']) = some tokens) :
    Passes [String.ofList line] tokens := by
  intro rest later spells
  have ended : IsPlain (line ++ ['\n']) :=
    List.forall_mem_append.mpr ⟨plain, List.forall_mem_singleton.mpr (by decide)⟩
  have all := Spells.line ended (.inr List.getLast?_concat) read spells
  simpa using all

/-- A fixed line is checked character by character. -/
theorem passes_fixed (checked : IsPlain line ∧
    (lex (line ++ ['\n']).length (line ++ ['\n'])).isSome = true) :
    Passes [String.ofList line] (piece (String.ofList line ++ "\n")) := by
  obtain ⟨tokens, read⟩ := Option.isSome_iff_exists.mp checked.2
  rw [piece_line, read]
  exact passes_of_lex checked.1 read

/-- A fixed line in two parts. -/
theorem passes_joined {front back : List Char} (checked : IsPlain (front ++ back) ∧
    (lex (front ++ back ++ ['\n']).length (front ++ back ++ ['\n'])).isSome = true) :
    Passes [String.ofList front ++ String.ofList back]
      (piece (String.ofList front ++ String.ofList back ++ "\n")) := by
  rw [← String.ofList_append]
  exact passes_fixed checked

/-- A comment spells nothing, and neither does an empty line. -/
theorem passes_comment (checked : IsPlain line ∧
    lex (line ++ ['\n']).length (line ++ ['\n']) = some []) : Passes [String.ofList line] [] :=
  passes_of_lex checked.1 checked.2

/-- Lines with an empty one between them. -/
theorem Passes.spaced {lines lines' : List String} {tokens tokens' : List Token}
    (above : Passes lines tokens) (below : Passes lines' tokens') :
    Passes (lines ++ [""] ++ lines') (tokens ++ tokens') := by
  have empty : Passes [""] [] := passes_comment (by decide +kernel)
  have all := above.append (empty.append below)
  rwa [← List.append_assoc] at all

end

/-! ## Reading closures back -/

theorem dropPrefix?_append (front rest : List Token) :
    (front ++ rest).dropPrefix? front = some rest :=
  List.dropPrefix?_append_of_beq rest (beq_self_eq_true front)

theorem piece_closure : piece "|| Ok(" = [.mark '|', .mark '|', .name "Ok", .mark '('] := by
  exact (piece_ofList _).trans rfl

theorem piece_round : piece ")" = [.mark ')'] := by
  exact (piece_ofList _).trans rfl

theorem opening_registration : piece registration.opening =
    [.name "registry", .mark '.', .name "insert", .mark '('] :=
  (piece_ofList _).trans (by decide +kernel)

theorem opening_selection : piece selection.opening = [] :=
  (piece_ofList _).trans rfl

def closureTokens (node : Node) : List Token :=
  piece "|| Ok(" ++ ((termOf (.ofNode node)).tokens ++ piece ")")

def Frame.tokens (frame : Frame) (entry : String × Node) : List Token :=
  piece frame.opening ++
    .text entry.1 :: (piece frame.middle ++ (closureTokens entry.2 ++ piece frame.closing))

def Frame.functionTokens (frame : Frame) (head tail : List String) (entries : Dict Node) :
    List Token :=
  fixed head ++ (entries.flatMap frame.tokens ++ fixed tail)

def Closure.of (entry : String × Node) : Closure :=
  (entry.1, .ok entry.2)

open Node (IsAccepted)

theorem result?_ofNode {node : Node} (accepted : node.Everywhere IsAccepted) :
    (termOf (.ofNode node)).result? = some (.ok node) := by
  have means : (termOf (.ofNode node)).value = .ok (.node node) := means_ofNode accepted
  rw [Term.result?, means]

section

variable {frame : Frame}

theorem closure?_tokens {entry : String × Node} (accepted : entry.2.Everywhere IsAccepted)
    (rest : List Token) :
    frame.closure? (frame.tokens entry ++ rest) = some (Closure.of entry, rest) := by
  have lacks : Lacks termMarks (piece ")" ++ (piece frame.closing ++ rest)) := by
    rw [piece_round]
    exact lacks_mark (by decide) _
  have read := (reads_term (termOf (.ofNode entry.2))).whole lacks (Nat.lt_succ_self _)
  simp only [Frame.closure?, Frame.tokens, closureTokens, List.append_assoc, List.cons_append,
    dropPrefix?_append, Option.bind_eq_bind, Option.bind_some, read, result?_ofNode accepted]
  rfl

/-- Closures are read up to where there is none. -/
theorem closures_tokens {entries : Dict Node} {rest : List Token} {turns : Nat}
    (accepted : ∀ entry ∈ entries, entry.2.Everywhere IsAccepted)
    (ends : frame.closure? rest = none)
    (enough : (entries.flatMap frame.tokens ++ rest).length ≤ turns) :
    frame.closures turns (entries.flatMap frame.tokens ++ rest) =
      (entries.map Closure.of, rest) := by
  induction entries generalizing turns with
  | nil =>
      cases turns with
      | zero => rfl
      | succ turns =>
          rw [Frame.closures]
          simp only [List.flatMap_nil, List.nil_append, ends]
          rfl
  | cons entry others ih =>
      obtain ⟨here, later⟩ := List.forall_mem_cons.mp accepted
      rw [List.flatMap_cons, List.append_assoc] at enough ⊢
      rw [List.length_append] at enough
      have takes : 0 < (frame.tokens entry).length :=
        List.length_pos_of_mem (List.mem_append_right _ List.mem_cons_self)
      cases turns with
      | zero => omega
      | succ turns =>
          rw [Frame.closures, closure?_tokens here]
          have fewer : frame.closures turns (others.flatMap frame.tokens ++ rest) =
              (others.map Closure.of, rest) := ih later (by omega)
          simp only [fewer]
          rfl

theorem function?_tokens {entries : Dict Node} {head tail : List String}
    (accepted : ∀ entry ∈ entries, entry.2.Everywhere IsAccepted)
    (ends : ∀ rest, frame.closure? (fixed tail ++ rest) = none) (rest : List Token) :
    frame.function? head tail (frame.functionTokens head tail entries ++ rest) =
      some (entries.map Closure.of, rest) := by
  have read := closures_tokens accepted (ends rest) (Nat.le_refl _)
  simp only [Frame.function?, Frame.functionTokens, List.append_assoc, dropPrefix?_append,
    Option.bind_eq_bind, Option.bind_some, read]
  rfl

end

end Schemata.Source
