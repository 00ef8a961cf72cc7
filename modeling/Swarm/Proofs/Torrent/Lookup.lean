import Swarm.Proofs.Bencode.Scalar
import Swarm.Torrent.Metainfo

/-!
# Fields taken out are fields looked up

A torrent is read by taking its fields out of the dictionary one after the other. No two of them
have the same key, so what is taken is what the dictionary held to begin with.

## Main definitions

* `infoField`: a field of the info dictionary

## Main results

* `run_take_bind`: what is done with a field that is taken out, and what is left of the entries
* `FileEntry.ofValue?_dict`, `Content.ofEntries_eq`, `Info.ofEntries_eq`, `Metainfo.ofValue_dict`:
  what is read, told by the entries there were
-/

namespace Swarm.Torrent

open Bencode (Value)

variable {entries : List (Bytes × Value)}

/-! ## Fields -/

/-- What is stored under a key of the info dictionary, if there is one. -/
def infoField (value : Value) (key : String) : Option Value :=
  (value.get? "info").bind (·.get? key)

theorem infoField_of_info {value : Value} {fields : List (Bytes × Value)}
    (hinfo : value.get? "info" = some (.dict fields)) (key : String) :
    infoField value key = Dict.get? (Bytes.ofString key) fields := by
  rw [infoField, hinfo]
  rfl

section Take

variable {m : Type → Type} [Monad m] [LawfulMonad m] {α : Type} {key other : String}

theorem run_take_bind (next : Option Value → StateT (List (Bytes × Value)) m α) :
    (take key >>= next).run entries =
      (next (Dict.get? (Bytes.ofString key) entries)).run
        (Dict.erase (Bytes.ofString key) entries) := by
  rw [take, StateT.run_bind, StateT.run_modifyGet, pure_bind]

theorem run_takeInt_bind (next : Option Int64 → StateT (List (Bytes × Value)) m α) :
    (takeInt key >>= next).run entries =
      (next (intAt? entries key)).run (Dict.erase (Bytes.ofString key) entries) := by
  rw [takeInt, bind_assoc, run_take_bind, pure_bind]
  rfl

theorem run_takeText_bind (next : Option String → StateT (List (Bytes × Value)) m α) :
    (takeText key >>= next).run entries =
      (next (textAt? entries key)).run (Dict.erase (Bytes.ofString key) entries) := by
  rw [takeText, bind_assoc, run_take_bind, pure_bind]
  rfl

/-- What is not read from the entries leaves them as they are. -/
theorem run_liftM_bind {β : Type} (value : m β) (next : β → StateT (List (Bytes × Value)) m α) :
    ((liftM value : StateT (List (Bytes × Value)) m β) >>= next).run entries =
      value >>= fun result => (next result).run entries := by
  rw [StateT.run_bind, liftM, StateT.run_monadLift, bind_assoc]
  simp only [pure_bind]
  rfl

/-- A field stays when one of another key is taken out. -/
theorem get?_erase_of_ne (h : other ≠ key) :
    Dict.get? (Bytes.ofString other) (Dict.erase (Bytes.ofString key) entries) =
      Dict.get? (Bytes.ofString other) entries := by
  rw [Dict.get?_erase, if_neg fun heq => h (Utf8.ofString_inj.mp heq)]

theorem intAt?_erase_of_ne (h : other ≠ key) :
    intAt? (Dict.erase (Bytes.ofString key) entries) other = intAt? entries other := by
  rw [intAt?, get?_erase_of_ne h, intAt?]

theorem textAt?_erase_of_ne (h : other ≠ key) :
    textAt? (Dict.erase (Bytes.ofString key) entries) other = textAt? entries other := by
  rw [textAt?, get?_erase_of_ne h, textAt?]

end Take

/-! ## Files -/

theorem FileEntry.ofValue?_dict :
    ofValue? (.dict entries) =
      ((intAt? entries "length").filter (0 ≤ ·)).bind fun length =>
        ((Dict.get? (Bytes.ofString "path") entries).bind Value.asList?).bind fun segments =>
          if segments.isEmpty then none else (segments.mapM Value.asText?).map (⟨length, ·⟩) := by
  change read.run' entries = _
  rw [StateT.run'_eq, read, run_takeInt_bind]
  cases (intAt? entries "length").filter (0 ≤ ·) with
  | none => rfl
  | some length =>
    dsimp only
    rw [run_take_bind, get?_erase_of_ne (by decide)]
    cases (Dict.get? (Bytes.ofString "path") entries).bind Value.asList? with
    | none => rfl
    | some segments =>
      -- A path is not looked at if it has no segments.
      cases segments with
      | nil => rfl
      | cons segment segments =>
        dsimp only [Option.bind_some, List.isEmpty_cons, Bool.false_eq_true, if_false]
        cases (segment :: segments).mapM Value.asText? <;> rfl

/-! ## The layout -/

namespace Content

theorem ofEntries_eq :
    ofEntries entries =
      ofFields (Dict.get? (Bytes.ofString "length") entries)
        (Dict.get? (Bytes.ofString "files") entries) := by
  rw [ofEntries, StateT.run'_eq, read, run_take_bind, run_take_bind,
    get?_erase_of_ne (by decide)]
  cases ofFields (Dict.get? (Bytes.ofString "length") entries)
    (Dict.get? (Bytes.ofString "files") entries) <;> rfl

theorem run_read_bind {α : Type}
    (next : Content → StateT (List (Bytes × Value)) (Except MetainfoError) α) :
    (read >>= next).run entries = ofEntries entries >>= fun content => (next content).run
      (Dict.erase (Bytes.ofString "files") (Dict.erase (Bytes.ofString "length") entries)) := by
  rw [ofEntries_eq, StateT.run_bind, read, run_take_bind, run_take_bind,
    get?_erase_of_ne (by decide)]
  cases ofFields (Dict.get? (Bytes.ofString "length") entries)
    (Dict.get? (Bytes.ofString "files") entries) <;> rfl

/-- A field of another key has no part in the layout. -/
theorem ofEntries_erase_of_ne {key : String} (hlength : "length" ≠ key) (hfiles : "files" ≠ key) :
    ofEntries (Dict.erase (Bytes.ofString key) entries) = ofEntries entries := by
  rw [ofEntries_eq, ofEntries_eq, get?_erase_of_ne hlength, get?_erase_of_ne hfiles]

end Content

/-! ## The info dictionary -/

theorem Info.ofEntries_eq :
    ofEntries entries =
      match (intAt? entries "piece length").filter (0 < ·) with
      | none => .error .missingOrInvalidPieceLength
      | some pieceLength =>
        match (Dict.get? (Bytes.ofString "pieces") entries).bind Value.asBytes? with
        | none => .error .missingOrInvalidPieces
        | some pieces =>
          match textAt? entries "name" with
          | none => .error .missingOrInvalidName
          | some name =>
            (Content.ofEntries entries).map fun content =>
              { name, pieceLength, pieces, content, privacy := intAt? entries "private"
                raw := none } := by
  -- One field after the other is taken, from what those before it have left.
  rw [ofEntries, StateT.run'_eq, read, run_takeInt_bind]
  cases (intAt? entries "piece length").filter (0 < ·) with
  | none => rfl
  | some pieceLength =>
    dsimp only
    rw [run_take_bind, get?_erase_of_ne (by decide)]
    cases (Dict.get? (Bytes.ofString "pieces") entries).bind Value.asBytes? with
    | none => rfl
    | some pieces =>
      dsimp only
      rw [run_takeText_bind, textAt?_erase_of_ne (by decide), textAt?_erase_of_ne (by decide)]
      cases textAt? entries "name" with
      | none => rfl
      | some name =>
        dsimp only
        simp (disch := decide) only [Content.run_read_bind, Content.ofEntries_erase_of_ne,
          run_takeInt_bind, intAt?_erase_of_ne]
        cases Content.ofEntries entries <;> rfl

/-! ## Torrents -/

theorem Metainfo.ofValue_dict :
    ofValue (.dict entries) =
      match textAt? entries "announce" with
      | none => .error .missingOrInvalidAnnounce
      | some announce =>
        match Dict.get? (Bytes.ofString "info") entries with
        | none => .error .missingOrInvalidInfo
        | some value =>
          (Info.ofValue value).map fun info =>
            { announce
              announceList := (Dict.get? (Bytes.ofString "announce-list") entries).bind tiers?
              creationDate := intAt? entries "creation date"
              comment := textAt? entries "comment"
              createdBy := textAt? entries "created by"
              encoding := textAt? entries "encoding"
              info } := by
  change read.run' entries = _
  rw [StateT.run'_eq, read, run_takeText_bind]
  cases textAt? entries "announce" with
  | none => rfl
  | some announce =>
    dsimp only
    rw [run_take_bind, get?_erase_of_ne (by decide)]
    cases Dict.get? (Bytes.ofString "info") entries with
    | none => rfl
    | some value =>
      cases value with
      | dict fields =>
        dsimp only
        -- What is optional is taken from what all fields before it have left.
        simp (disch := decide) only [run_liftM_bind, run_take_bind, run_takeInt_bind,
          run_takeText_bind, get?_erase_of_ne, intAt?_erase_of_ne, textAt?_erase_of_ne]
        cases Info.ofValue (.dict fields) <;> rfl
      | _ => rfl

end Swarm.Torrent
