import Formulary.Yaml.Content

/-!
# Settings files

A settings file is read as one value: its tokens make a tree of nodes, and the nodes have a content,
which has a value unless it has a fault.
-/

namespace Formulary.Yaml

def joinLineEnds : Text → Text
  | '\r' :: '\n' :: rest => '\n' :: joinLineEnds rest
  | '\r' :: rest => '\n' :: joinLineEnds rest
  | c :: rest => c :: joinLineEnds rest
  | [] => []

def ofText (text : Text) : Except Fault Value :=
  match Node.ofTokens (Token.ofText (joinLineEnds text)) with
  | .error fault => .error fault
  | .ok node =>
    let content := Content.ofNode node
    match content.fault? with
    | some fault => .error fault
    | none => .ok content.value

end Formulary.Yaml
