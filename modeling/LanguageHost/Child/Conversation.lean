import LanguageHost.Json.Basic

/-!
# Conversations

What a scripted server does about the messages it reads: for each method a list of reactions,
taken in order. In a message that is sent back, the mark `$id` stands for the id of the message in
hand.
-/

namespace LanguageHost

/-- What a scripted server does about a message. -/
inductive Reaction where
  | send (message : Json)
  | raw (text : String)
  | quit (code : Int)
  deriving Inhabited

/-- What a scripted server does about the messages of each method, in order. -/
abbrev Conversation := List (Text × List Reaction)

/-- A message with the id that it answers. -/
def Reaction.fillId (id message : Json) : Json :=
  match message with
  | .obj members =>
    .obj <| members.map fun m =>
      match m.2 with
      | .str t => if m.1 = Text.ofString "id" && t = Text.ofString "$id" then (m.1, id) else m
      | _ => m
  | other => other

end LanguageHost
