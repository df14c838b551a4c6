import TboxSec.Keyprov.World

/-!
# The metadata ledger

`SecureMetadataLedger`: a copy of the ACTIVE slots' metadata, one record for each domain and
purpose, in a store of its own. It is not authoritative: `getStatus` compares it with the
slots. Every record written has `present` set, which is also what a load sets.

* `ledgerLoad` reads the whole copy; a store without one is an empty ledger.
* `ledgerPut` writes one record. A put that fails has changed the copy in memory and not the one
  on the disk.
* `ledgerGet` looks a record up under its domain and purpose.
-/

namespace TboxSec.Keyprov

variable (ω : Oracle)

/-- `Impl::make_key`. -/
def ledgerKey (domain purpose : String) : String := domain ++ "|" ++ purpose

/-- `SecureMetadataLedger::load`: without a stored document the records stay as they are. -/
def ledgerLoad : SecM ErrorCode := fun w =>
  if !ω.ledgerReady then .done .businessKeyNotReady w
  else
    match w.disk.ledger with
    | [] => .done .success w
    | doc :: _ =>
      if !ω.ledgerLoads then .done .storageCorruption w
      else .done .success { w with ledger := doc }

/-- `SecureMetadataLedger::get`. -/
def ledgerGet (l : Ledger) (domain purpose : String) : Option BusinessKeyMetadata :=
  l.find? (ledgerKey domain purpose)

/-- The records after a put. -/
def putRecord (l : Ledger) (m : BusinessKeyMetadata) : Ledger :=
  l.insert (ledgerKey m.businessDomain m.purpose) m

/-- `SecureMetadataLedger::put`: the record is set in memory before the save. -/
def ledgerPut (m : BusinessKeyMetadata) : SecM ErrorCode := fun w =>
  let w' := { w.askedPut with ledger := putRecord w.ledger m }
  match ω.put w.asked.puts with
  | .ok =>
    .done .success { w' with disk.ledger := putRecord w.ledger m :: w.disk.ledger }
  | .failed => .done .storageWriteFailed w'
  | .notReady => .done .businessKeyNotReady w.askedPut
  | .crash => .crashed w.disk

end TboxSec.Keyprov
