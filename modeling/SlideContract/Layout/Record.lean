import SlideContract.Layout.Compile
import SlideContract.Layout.Metadata

/-!
# Layout records

The record that is kept of a layout: its metadata and its document.
-/

namespace SlideContract.Layout

/-- What is kept of a layout, and what happened when it was compiled. -/
structure Record where
  metadata : Metadata
  document : Json
  events : List Event

/-- The record of a layout source. -/
def record (settings : Settings) (source : List Char) : Record :=
  let metadata := metadata source
  let compiled := compile settings source
  let note := if compiled.usedFallback then [.fallbackLayout metadata.identifier] else []
  { metadata, document := compiled.document, events := compiled.events ++ note }

/-- The records of many sources, in their order, unless fewer than one worker is asked for. -/
def records (settings : Settings) (workers : Option Int) (sources : List (List Char)) :
    Option (List Record) :=
  if workers.any (· ≤ 0) then none else some (sources.map (record settings))

end SlideContract.Layout
