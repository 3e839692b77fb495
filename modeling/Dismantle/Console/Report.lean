import Dismantle.Console.Layout
import Dismantle.Console.Markup
import Dismantle.Fault.Report
import Dismantle.Host.Basic
import Dismantle.Teardown.Run
/-! What a user is shown: questions, steps, and how a run has ended. -/
namespace Dismantle.Console

/-- Shows a text with tags at a width, with something behind it. -/
def print (limit : Nat) (ending markup : String) : Act Host Unit := do
  let s ← Act.ofExcept (Markup.plain markup)
  Host.show_ (printed limit s ++ ending)

def printLine (limit : Nat) (markup : String) : Act Host Unit := print limit "\n" markup

def box (limit : Nat) (title markup : String) : Act Host Unit := do
  let s ← Act.ofExcept (Markup.plain markup)
  Host.show_ (panel limit title s)

def promptText (message : String) : String :=
  "[bold yellow]" ++ Markup.escape message ++ "[/bold yellow] (yes/no): "

def ask (limit : Nat) (message : String) : Act Host String := do
  print limit "" (promptText message)
  Host.readLine

def step (limit : Nat) (message : String) : Act Host Unit :=
  printLine limit ("[bold cyan]step:[/bold cyan] " ++ Markup.escape message)

def note (limit : Nat) (message : String) : Act Host Unit :=
  printLine limit ("[dim]" ++ Markup.escape message ++ "[/dim]")

def orElse (s default : String) : String := if s = "" then default else s

/-- The summary of a completed run. `seconds` is how long it took. -/
def summary (e : Environment) (checkpoints : Nat) (seconds : String) : String :=
  "[green]✓ Environment destroyed[/green]\n\n"
    ++ "Environment: " ++ orElse (Markup.escape e.envId) "(unnamed)" ++ "\n"
    ++ "Provider: " ++ orElse e.provider.text "none recorded" ++ "\n"
    ++ "Checkpoints saved: " ++ toString checkpoints ++ "\n"
    ++ "Duration: " ++ seconds ++ "s"

/-- Runs that were skipped or cancelled have said so already. -/
def outcome (limit : Nat) (seconds : String) (e : Environment) (o : Teardown.Outcome) : Act Host Unit :=
  if o.status = .completed then do
    Host.show_ "\n"
    box limit "Destroy Complete" (summary e o.checkpoints seconds)
  else pure ()

def failure (limit : Nat) (f : Fault) : Act Host Unit := do
  Host.show_ "\n"
  box limit "Destroy Failed" ("[red]✗ Destroy failed[/red]\n\n" ++ Markup.escape f.userMessage)
  printLine limit "\n[dim]Completed steps are saved; re-run destroy to continue.[/dim]"

/-- A run that failed in a way that nobody has foreseen. -/
def surprise (limit : Nat) (f : Fault) : Act Host Unit :=
  printLine limit ("[red]Unexpected error:[/red] " ++ Markup.escape f.text)

def refusal (limit : Nat) (f : Fault) : Act Host Unit := do
  printLine limit "[red]Configuration validation failed:[/red]\n"
  printLine limit f.text

end Dismantle.Console
