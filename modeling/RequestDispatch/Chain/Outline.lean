import RequestDispatch.Chain.Basic
import RequestDispatch.Text.Quoted

/-! A chain in one line, for people: its layers and the URI it shows. -/
namespace RequestDispatch

def Layer.Kind.outline : Layer.Kind → String
  | forward => "Forward"
  | inclusion => "Include"
  | decorator => "Decorator"

def Chain.outline {β : Type} [Underlying β] (c : Chain β) : String :=
  "RequestChain \x7b layers: [" ++ ", ".intercalate (c.kinds.map (·.outline)) ++
    "], request_uri: " ++ Text.Quoted.encode c.view.requestUri ++ " \x7d"

end RequestDispatch
