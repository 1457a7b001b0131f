import Signpost.Endpoint.Partition
import Signpost.Json.Decode

/-!
# Partition tables as documents

Reading a table of partitions from JSON. Patterns are read only when the whole document is.
-/

namespace Signpost.PartitionTable

open Json

/-- Why a text is not a table of partitions. -/
inductive DocumentError where
  | mismatch (m : Mismatch)
  | pattern (id : String) (f : Pattern.Fault)

/-- The error in words. -/
def DocumentError.message : DocumentError → String
  | mismatch m => "invalid partition table: " ++ m.message
  | pattern id _ => "invalid region regex for partition `" ++ id ++ "`"

/-- The fields of outputs; a change holds those that have been read. -/
private def outputsFields : List (Json.Field PartitionChange) :=
  [.of "name" true (·.name) (fun x c => { c with name := some x }) Decoder.string,
   .of "dnsSuffix" true (·.dnsSuffix) (fun x c => { c with dnsSuffix := some x }) Decoder.string,
   .of "dualStackDnsSuffix" true (·.dualStackDnsSuffix)
     (fun x c => { c with dualStackDnsSuffix := some x }) Decoder.string,
   .of "supportsFIPS" true (·.supportsFips) (fun x c => { c with supportsFips := some x })
     Decoder.bool,
   .of "supportsDualStack" true (·.supportsDualStack)
     (fun x c => { c with supportsDualStack := some x }) Decoder.bool,
   .of "implicitGlobalRegion" true (·.implicitGlobalRegion)
     (fun x c => { c with implicitGlobalRegion := some x }) Decoder.string]

/-- The outputs of a partition, all of which have to be given. -/
def outputs : Decoder Partition := fun src o => do
  let c ← Record.decoder outputsFields "struct Outputs" .none src o
  return c.apply default

/-- A change while its entries are read. -/
private structure ChangeDraft where
  name : Option (Option String)
  dnsSuffix : Option (Option String)
  dualStackDnsSuffix : Option (Option String)
  supportsFips : Option (Option Bool)
  supportsDualStack : Option (Option Bool)
  implicitGlobalRegion : Option (Option String)

private def changeFields : List (Json.Field ChangeDraft) :=
  [.nullable "name" (·.name) (fun x c => { c with name := some x }) Decoder.string,
   .nullable "dnsSuffix" (·.dnsSuffix) (fun x c => { c with dnsSuffix := some x }) Decoder.string,
   .nullable "dualStackDnsSuffix" (·.dualStackDnsSuffix)
     (fun x c => { c with dualStackDnsSuffix := some x }) Decoder.string,
   .nullable "supportsFIPS" (·.supportsFips) (fun x c => { c with supportsFips := some x })
     Decoder.bool,
   .nullable "supportsDualStack" (·.supportsDualStack)
     (fun x c => { c with supportsDualStack := some x }) Decoder.bool,
   .nullable "implicitGlobalRegion" (·.implicitGlobalRegion)
     (fun x c => { c with implicitGlobalRegion := some x }) Decoder.string]

/-- What a region changes. -/
def change : Decoder PartitionChange := fun src o => do
  let c ← Record.decoder changeFields "struct OutputOverride" ⟨none, none, none, none, none, none⟩ src o
  return ⟨c.name.join, c.dnsSuffix.join, c.dualStackDnsSuffix.join, c.supportsFips.join,
    c.supportsDualStack.join, c.implicitGlobalRegion.join⟩

/-- A partition with its pattern as text. -/
structure RawEntry where
  id : Option String
  pattern : Option String
  regions : Option (Table String PartitionChange)
  outputs : Option Partition

private def entryFields : List (Json.Field RawEntry) :=
  [.of "id" true (·.id) (fun x e => { e with id := some x }) Decoder.string,
   .of "regionRegex" true (·.pattern) (fun x e => { e with pattern := some x }) Decoder.string,
   .of "regions" false (·.regions) (fun x e => { e with regions := some x })
     (Decoder.entries change),
   .of "outputs" true (·.outputs) (fun x e => { e with outputs := some x }) outputs]

/-- A partition with its pattern as text. -/
def rawEntry : Decoder RawEntry :=
  Record.decoder entryFields "struct RawPartition" ⟨none, none, none, none⟩

/-- The partition with its pattern read. -/
def RawEntry.entry (e : RawEntry) : Except DocumentError PartitionEntry := do
  let id := e.id.getD ""
  let pattern ← (Pattern.ofText (e.pattern.getD "")).mapError (.pattern id)
  return ⟨id, pattern, e.regions.getD [], e.outputs.getD default⟩

/-- The table that a text holds. -/
def ofText (text : String) : Except DocumentError PartitionTable := do
  let table := Record.single "struct PartitionTable" "partitions" true (Decoder.list rawEntry)
  let entries ← (decode table text).mapError .mismatch
  (entries.getD []).mapM (·.entry)

end Signpost.PartitionTable
