import Starweaver.Library.Machine

/-! Requests and the messages that answer them on one line; a final message closes the answer. -/

namespace Starweaver.Library.Dialogue

open Machine

inductive Item (ρ μ : Type)
  | request (request : ρ)
  | message (message : μ)

section Turns

variable {ρ μ : Type}

def requests (items : List (Item ρ μ)) : List ρ := items.filterMap fun
  | .request request => some request
  | .message _ => none

def messages (items : List (Item ρ μ)) : List μ := items.filterMap fun
  | .request _ => none
  | .message message => some message

variable (final : μ → Bool)

/-- A request opens a turn, and only inside a turn is there a message. -/
def turnStep : Bool → Item ρ μ → Option Bool
  | false, .request _ => some true
  | true, .message message => some (!final message)
  | _, _ => none

/-- The items are whole turns, with one turn open at the end if `awaiting` says so. -/
def Turns (items : List (Item ρ μ)) (awaiting : Bool) : Prop := run (turnStep final) false items = some awaiting

variable {final} {items : List (Item ρ μ)} {awaiting : Bool}

@[simp] theorem requests_append (items others : List (Item ρ μ)) :
    requests (items ++ others) = requests items ++ requests others := List.filterMap_append ..

@[simp] theorem messages_append (items others : List (Item ρ μ)) :
    messages (items ++ others) = messages items ++ messages others := List.filterMap_append ..

theorem Turns.request (h : Turns final items false) (request : ρ) : Turns final (items ++ [.request request]) true :=
  run_append h rfl

theorem Turns.message (h : Turns final items true) (message : μ) :
    Turns final (items ++ [.message message]) (!final message) :=
  run_append h rfl

end Turns

end Starweaver.Library.Dialogue
