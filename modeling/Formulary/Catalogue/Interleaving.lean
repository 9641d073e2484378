import Formulary.Catalogue

/-!
# Interleaved stores

Several stores may be under way at once, each taking its steps whenever it is its turn, and other
commands may reach the archive in between. An interleaving is a list of turns.
-/

namespace Formulary.Catalogue

/-- Whose turn it is: a store takes its next step, or a command is carried out as a whole. -/
inductive Turn where
  | step (store : Nat)
  | command (command : Archive.Command)

/-- The stores that are under way, and the archive that they share. -/
structure Concurrent where
  stores : List Store
  archive : Archive

namespace Concurrent

def start (texts : List Text) (archive : Archive) : Concurrent where
  stores := texts.map Store.ofText
  archive := archive

def turn (state : Concurrent) : Turn → Concurrent
  | .step index =>
    match state.stores[index]? with
    | some store =>
      let (store, archive) := store.step state.archive
      { stores := state.stores.set index store, archive }
    | none => state
  | .command command => { state with archive := (state.archive.perform command).2 }

def run (state : Concurrent) (turns : List Turn) : Concurrent :=
  turns.foldl turn state

end Concurrent

end Formulary.Catalogue
