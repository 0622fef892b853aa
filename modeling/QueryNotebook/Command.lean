import QueryNotebook.Icon
import QueryNotebook.JobQueue
import QueryNotebook.Path
import QueryNotebook.Platform

/-!
# Commands

What the palette lists: a title, what to show beside it, and an effect.  The effect stands behind a
handler; two commands are the same only if they share their handler, so a command that a source made
anew is another command, however alike the two look.
-/

namespace QueryNotebook

/-- What a command does. -/
inductive CommandEffect where
  /-- The host's action of the given name. -/
  | action (name : String)
  /-- A text inserted into the active document. -/
  | insertText (text : String)
  /-- A document opened. -/
  | openDocument (path : Path)

/-- Which handler it is. -/
inductive HandlerId where
  /-- A handler that was registered once, by its number. -/
  | registered (serial : Nat)
  /-- A handler made for one item of one source in one round of polling. -/
  | polled (round place item : Nat)
deriving DecidableEq, Repr

/-- An effect that commands can share. -/
structure Handler where
  id : HandlerId
  effect : CommandEffect

/-- One entry of the palette. -/
structure Command where
  title : String
  /-- Empty when there is nothing more to say. -/
  detail : String
  icon? : Option Icon
  keystroke? : Option Keystroke
  handler : Handler

/-- Handlers are the same when they are one handler. -/
instance : BEq Handler where
  beq left right := left.id == right.id

/-- Commands are the same when they look the same and share their handler. -/
instance : BEq Command where
  beq left right :=
    left.title == right.title && left.detail == right.detail && left.icon? == right.icon? &&
      left.keystroke? == right.keystroke? && left.handler == right.handler

namespace Command

/-- What stands beside the title: the detail, or else the keystroke as the platform writes it. -/
def shown (command : Command) (platform : Platform) : String :=
  if command.detail = "" then (command.keystroke?.map platform.spell).getD ""
  else command.detail

/-- An optional value as a diagnostic shows it. -/
def describeOption {α : Type} (describe : α → String) : Option α → String
  | some value => "Some(" ++ describe value ++ ")"
  | none => "None"

/-- A command as a diagnostic shows it. -/
def describe (command : Command) : String :=
  let icon (icon : Icon) := "IconRef(" ++ Text.quotedString icon.key ++ ")"
  "CommandDescriptor \x7b title: " ++ Text.quotedString command.title ++ ", detail: " ++
    Text.quotedString command.detail ++ ", icon: " ++ describeOption icon command.icon? ++
      ", keystroke: " ++ describeOption Keystroke.describe command.keystroke? ++ ", .. \x7d"

/-- The commands whose titles contain a query in any case.  Blanks around the query do not count; a
blank query is contained in every title. -/
def matching (commands : List Command) (query : String) : List Command :=
  let needle := Text.lower (Text.trim query.toList)
  if needle.isEmpty then commands
  else commands.filter fun command => Text.occursIn needle (Text.lower command.title.toList)

end Command

/-- What a deferred job of the program does. -/
inductive Work where
  /-- A completion inserted at the caret of its document. -/
  | insertCompletion (text : String)
  /-- A command performed. -/
  | perform (handler : Handler)

end QueryNotebook
