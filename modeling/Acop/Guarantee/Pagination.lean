import Acop.Cmdb.Listing
import Acop.Cmdb.Laboratory
import Mathlib.Data.Set.Finite.Basic
import Mathlib.Data.Set.Finite.Range
import Mathlib.Data.Finite.Prod

/-! Following the cursors of the listing. -/
namespace Acop.Cmdb
open Acop.Coding Acop.Selection

section Cursor

namespace Datetime

theorem decimalOf_decimal (digit : Nat) (small : digit < 10) : decimalOf (decimal digit) = some digit := by
  have all : ∀ digit < 10, decimalOf (decimal digit) = some digit := by decide
  exact all digit small

theorem readNumber_padded {width n : Nat} (rest : List Char) (small : n < 10^width) :
    readNumber width (padded width n ++ rest) = some (n,rest) := by
  have long : (padded width n).length = width := length_digits width n
  rw [readNumber,if_pos (by rw [List.length_append,long]; omega),List.take_left' long,List.drop_left' long,padded,
    numeral_digits decimalOf_decimal small]
  rfl

theorem readChar_cons (char : Char) (rest : List Char) : readChar (char::rest) char = some rest := if_pos rfl

theorem readMicrosecond_point {n : Nat} (rest : List Char) (small : n < 1000000) :
    readMicrosecond ('.'::padded 6 n ++ rest) = some (n,rest) := readNumber_padded rest small

theorem readDate_dateText (stamp : Datetime) (rest : List Char) :
    readDate (stamp.dateText ++ rest) = some ((stamp.year,stamp.month,stamp.day),rest) := by
  obtain ⟨_,year,_,month,_,_⟩ := stamp.dated
  have year' : stamp.year < 10^4 := year
  have month' : stamp.month < 10^2 := by omega
  have day' : stamp.day < 10^2 := stamp.day_lt.trans (by decide)
  simp only [readDate,dateText,List.append_assoc,List.cons_append,readNumber_padded _ year',readNumber_padded _ month',
    readNumber_padded _ day',readChar_cons,Option.bind_eq_bind,Option.bind_some]
  rfl

theorem readTime_timeText (stamp : Datetime) : readTime (stamp.timeText ++ utcOffset) =
    some ((stamp.hour,stamp.minute,stamp.second,stamp.microsecond),utcOffset) := by
  obtain ⟨hour,minute,second,micros⟩ := stamp.timed
  have hour' : stamp.hour < 10^2 := hour.trans (by decide)
  have minute' : stamp.minute < 10^2 := minute.trans (by decide)
  have second' : stamp.second < 10^2 := second.trans (by decide)
  have fraction : readMicrosecond ((if stamp.microsecond = 0 then [] else '.'::padded 6 stamp.microsecond) ++ utcOffset) =
      some (stamp.microsecond,utcOffset) := by
    by_cases zero : stamp.microsecond = 0
    · rw [if_pos zero,zero]
      rfl
    · rw [if_neg zero]
      exact readMicrosecond_point _ micros
  simp only [readTime,timeText,List.append_assoc,List.cons_append,readNumber_padded _ hour',readNumber_padded _ minute',
    readNumber_padded _ second',readChar_cons,fraction,Option.bind_eq_bind,Option.bind_some]
  rfl

theorem checked_fields (stamp : Datetime) : checked stamp.year stamp.month stamp.day stamp.hour stamp.minute stamp.second
    stamp.microsecond = some stamp := by
  rw [checked,dif_pos stamp.dated,dif_pos stamp.timed]

theorem readIso_isoformat (stamp : Datetime) : readIso stamp.isoformat = some stamp := by
  simp only [readIso,isoformat,List.append_assoc,List.cons_append,readDate_dateText,readChar_cons,readTime_timeText,
    Option.bind_eq_bind,Option.bind_some,if_true,checked_fields]

theorem isoformat_plain (stamp : Datetime) : '|' ∉ stamp.isoformat := by
  have number : ∀ width n, '|' ∉ padded width n := by
    intro width n member
    obtain ⟨digit,small,same⟩ := mem_digits member (by decide)
    have all : ∀ digit < 10, '|' ≠ decimal digit := by decide
    exact all digit small same
  have fraction : '|' ∉ if stamp.microsecond = 0 then [] else '.'::padded 6 stamp.microsecond := by
    split
    · exact List.not_mem_nil
    · simp [number]
  simp [isoformat,dateText,timeText,utcOffset,number,fraction]

end Datetime

theorem hexValue_hexDigit (digit : Nat) (small : digit < 16) : hexValue (hexDigit digit) = some digit := by
  have all : ∀ digit < 16, hexValue (hexDigit digit) = some digit := by decide
  exact all digit small

theorem hexDigits_eq (width n : Nat) :
    digits hexDigit 16 width n = (List.range width).map fun place => hexDigit (n / 16^(width - 1 - place) % 16) := by
  induction width generalizing n with
  | zero => rfl
  | succ width ih =>
    rw [digits,ih,List.range_succ,List.map_append]
    congr 1
    · apply List.map_congr_left
      intro place member
      have below := List.mem_range.mp member
      have power : width + 1 - 1 - place = width - 1 - place + 1 := by omega
      rw [power,Nat.div_div_eq_div_mul,← Nat.pow_succ']
    · simp

theorem hexDigit_plain (digit : Nat) (small : digit < 16) : hexDigit digit ≠ '-' := by
  have all : ∀ digit < 16, hexDigit digit ≠ '-' := by decide
  exact all digit small

theorem groups_flatten (text : List Char) (long : text.length = 32) : text.take 8 ++ ((text.drop 8).take 4 ++
    ((text.drop 12).take 4 ++ ((text.drop 16).take 4 ++ (text.drop 20).take 12))) = text := by
  have step : ∀ k n, (text.drop k).take n ++ text.drop (k + n) = text.drop k := by
    intro k n
    rw [← List.drop_drop,List.take_append_drop]
  rw [List.take_of_length_le (show (text.drop 20).length ≤ 12 by simp [long]),step 16 4,step 12 4,step 8 4,
    List.take_append_drop]

theorem filter_text (id : Uuid) : id.text.toList.filter (· ≠ '-') = digits hexDigit 16 32 id.toNat := by
  have plain : ∀ char ∈ digits hexDigit 16 32 id.toNat, decide (char ≠ '-') = true := by
    intro char member
    obtain ⟨digit,small,rfl⟩ := mem_digits member (by decide)
    exact decide_eq_true (hexDigit_plain digit small)
  have kept : ∀ start size, (((digits hexDigit 16 32 id.toNat).drop start).take size).filter (· ≠ '-') =
      ((digits hexDigit 16 32 id.toNat).drop start).take size := by
    intro start size
    apply List.filter_eq_self.mpr
    intro char member
    exact plain char (List.mem_of_mem_drop (List.mem_of_mem_take member))
  have whole := groups_flatten (digits hexDigit 16 32 id.toNat) (length_digits 32 id.toNat)
  have spelt : (List.range 32).map (fun place => hexDigit (id.toNat / 16^(31 - place) % 16)) = digits hexDigit 16 32 id.toNat :=
    (hexDigits_eq 32 id.toNat).symm
  rw [Uuid.text,spelt]
  simp only [String.toList_intercalate,List.map_cons,List.map_nil,String.toList_ofList,List.intercalate_cons_cons,
    List.intercalate_singleton,List.filter_append,kept]
  simpa using whole

theorem parseUuid_text (server : Server) (id : Uuid) : parseUuid server id.text = some id := by
  have small : id.toNat < 16^32 := id.isLt
  simp only [parseUuid,filter_text,length_digits,if_true,numeral_digits hexValue_hexDigit small]
  simp

theorem splitBar_eq {stamp ident : List Char} (plain : '|' ∉ stamp) : splitBar (stamp ++ '|'::ident) = some (stamp,ident) := by
  have passed : ∀ char ∈ stamp, decide (char ≠ '|') = true := by
    intro char member
    exact decide_eq_true fun same => plain (same ▸ member)
  have dropped : (stamp ++ '|'::ident).dropWhile (· ≠ '|') = '|'::ident := by
    rw [List.dropWhile_append_of_pos passed]
    rfl
  have taken : (stamp ++ '|'::ident).takeWhile (· ≠ '|') = stamp := by
    rw [List.takeWhile_append_of_pos passed]
    simp
  rw [splitBar,dropped,taken]

theorem fromUTF8_octets (raw : String) : String.fromUTF8? ⟨raw.toByteArray.data.toList.toArray⟩ = some raw :=
  dif_pos raw.isValidUTF8

variable (server : Server) (createdAt : Datetime) (assetId : Uuid)

theorem encodeCursor_ne_empty : encodeCursor createdAt assetId ≠ "" := by
  intro empty
  have nothing : encode (String.ofList (createdAt.isoformat ++ '|'::assetId.text.toList)).toByteArray.data.toList = [] := by
    simpa [encodeCursor] using empty
  have octets := decode_encode (String.ofList (createdAt.isoformat ++ '|'::assetId.text.toList)).toByteArray.data.toList
  rw [nothing] at octets
  have read := fromUTF8_octets (String.ofList (createdAt.isoformat ++ '|'::assetId.text.toList))
  rw [← Option.some_injective _ octets] at read
  have same : "" = String.ofList (createdAt.isoformat ++ '|'::assetId.text.toList) :=
    Option.some_injective _ ((fromUTF8_octets "").symm.trans read)
  have symbols := congrArg String.toList same
  simp at symbols

theorem decodeCursor_encodeCursor : decodeCursor server (encodeCursor createdAt assetId) = .ok (createdAt,assetId) := by
  have read : readCursor server (encodeCursor createdAt assetId) = some (createdAt,assetId) := by
    simp only [readCursor,encodeCursor,urlsafeB64decode,String.toList_ofList,decode_encode,Option.some_or,
      Option.bind_eq_bind,Option.bind_some,fromUTF8_octets,splitBar_eq createdAt.isoformat_plain,parseIso,
      Datetime.readIso_isoformat,String.ofList_toList,parseUuid_text]
    rfl
  rw [decodeCursor,read]

end Cursor

namespace AssetService

variable (server : Server) (filters : Filters) (inventories : Nat → Inventory) (limits : Nat → Int)

/-- The listing that a client asks for as its n-th, if it follows the cursors so far: the one
before named the cursor. -/
def asked : Nat → Option (Option String)
  | 0 => some none
  | n + 1 => match asked n with
    | some cursor => match listAssets server (inventories n) filters (limits n) cursor with
      | .ok (_,some next) => some (some next)
      | _ => none
    | none => none

def listed (n : Nat) : List AssetRow :=
  match asked server filters inventories limits n with
  | some cursor => match listAssets server (inventories n) filters (limits n) cursor with
    | .ok (rows,_) => rows
    | .error _ => []
  | none => []

def visited (n : Nat) : List AssetRow := (List.range n).flatMap (listed server filters inventories limits)

def Over (n : Nat) : Prop := ∃ cursor rows, asked server filters inventories limits n = some cursor ∧
  listAssets server (inventories n) filters (limits n) cursor = .ok (rows,none)

variable (wanted : Option (String × String))

def matching (inventory : Inventory) : List AssetRow := inventory.assets.rows.filter (matchesFilters server inventory filters wanted)

/-- The asset stands under this key in each of the inventories, and matches. -/
def PresentUntil (n : Nat) (key : Datetime ×ₗ Nat) : Prop :=
  ∀ i ≤ n, ∃ row ∈ matching server filters wanted (inventories i), row.key = key

def visits (n : Nat) (key : Datetime ×ₗ Nat) : Nat := (visited server filters inventories limits n).countP (·.key = key)

structure PaginationComplete : Prop where
  answered : ∀ n cursor, asked server filters inventories limits n = some cursor →
    ∃ answer, listAssets server (inventories n) filters (limits n) cursor = .ok answer
  ordered : ∀ n, (visited server filters inventories limits n).Pairwise fun first second => first.key < second.key
  sound : ∀ n, ∀ row ∈ listed server filters inventories limits n, row ∈ matching server filters wanted (inventories n)
  complete : ∀ n, Over server filters inventories limits n → ∀ key, PresentUntil server filters inventories wanted n key →
    visits server filters inventories limits (n + 1) key = 1
  /-- No page is asked for in vain, so that what comes later holds up neither a row nor the end. -/
  reached : ∀ key (keys : Finset (Datetime ×ₗ Nat)), (∀ n, PresentUntil server filters inventories wanted n key) →
    (∀ i, ∀ row ∈ matching server filters wanted (inventories i), row.key ≤ key → row.key ∈ keys) →
    visits server filters inventories limits (keys.card + 1) key = 1
  soon : ∀ keys : Finset (Datetime ×ₗ Nat), (∀ i, ∀ row ∈ matching server filters wanted (inventories i), row.key ∈ keys) →
    ∃ n ≤ keys.card, Over server filters inventories limits n
  ends : ∃ n, Over server filters inventories limits n
  roundTrip : ∀ createdAt assetId, decodeCursor server (encodeCursor createdAt assetId) = .ok (createdAt,assetId)

section Simulation

variable {server filters inventories limits wanted} {n : Nat}

def cursorOf (key : Datetime ×ₗ Nat) : String := encodeCursor (ofLex key).1 (BitVec.ofNat 128 (ofLex key).2)

theorem cursorOf_key (row : AssetRow) : cursorOf row.key = encodeCursor row.createdAt row.id := by
  simp [cursorOf,AssetRow.key]

theorem cursorOf_given (key : Datetime ×ₗ Nat) : given (some (cursorOf key)) = some (cursorOf key) := by
  have some' : cursorOf key ≠ "" := encodeCursor_ne_empty _ _
  simp [given,some']

theorem clamp_pos (limit : Int) : 0 < clamp limit := by
  unfold clamp maxPageSize
  omega

theorem startAfter_cursorOf {after : Option (Datetime ×ₗ Nat)} (small : ∀ key ∈ after, (ofLex key).2 < 2^128) :
    startAfter server (after.map cursorOf) = .ok after := by
  cases after with
  | none => rfl
  | some key =>
    have read : toLex ((ofLex key).1,(BitVec.ofNat 128 (ofLex key).2).toNat) = key := by
      rw [BitVec.toNat_ofNat,Nat.mod_eq_of_lt (small key rfl)]
      rfl
    simp only [startAfter,Option.map_some,cursorOf_given]
    rw [cursorOf,decodeCursor_encodeCursor]
    simp only [read]

theorem listAssets_eq (inventory : Inventory) (limit : Int) {after : Option (Datetime ×ₗ Nat)}
    (small : ∀ key ∈ after, (ofLex key).2 < 2^128) (accepted : wantedIdentifier server filters = .ok wanted) :
    listAssets server inventory filters limit (after.map cursorOf) =
      .ok ((page AssetRow.key (clamp limit) after (matching server filters wanted inventory)).1,
        (page AssetRow.key (clamp limit) after (matching server filters wanted inventory)).2.map cursorOf) := by
  have found : (inventory.assets.rows.filter fun row => matchesFilters server inventory filters wanted row &&
      after.all (· < row.key)) = beyond AssetRow.key after (matching server filters wanted inventory) := by
    rw [beyond,matching,List.filter_filter]
    simp only [Bool.and_comm]
  have named : (fun row : AssetRow => encodeCursor row.createdAt row.id) = cursorOf ∘ AssetRow.key := by
    funext row
    exact (cursorOf_key row).symm
  have start : startAfter server (after.map cursorOf) = .ok after := startAfter_cursorOf small
  rw [listAssets,accepted,start]
  simp only [ok_bind,page]
  rw [found]
  split
  · rw [named,Option.map_map]
    rfl
  · rfl

theorem matching_small {inventory : Inventory} {row : AssetRow} (_ : row ∈ matching server filters wanted inventory) :
    (ofLex row.key).2 < 2^128 := row.id.isLt

theorem matching_distinct (inventory : Inventory) : ((matching server filters wanted inventory).map AssetRow.key).Nodup := by
  have ids : ((matching server filters wanted inventory).map fun row => row.id).Nodup :=
    inventory.assets.distinct.sublist (List.filter_sublist.map _)
  rw [List.Nodup,List.pairwise_map] at ids ⊢
  apply ids.imp
  intro first second apart same
  apply apart
  exact BitVec.eq_of_toNat_eq (Prod.mk.inj (toLex.injective same)).2

theorem positive : ∀ n, 0 < clamp (limits n) := fun n => clamp_pos (limits n)

theorem request_small {after : Option (Datetime ×ₗ Nat)}
    (named : request AssetRow.key (fun i => matching server filters wanted (inventories i)) (fun i => clamp (limits i)) n = some after) :
    ∀ key ∈ after, (ofLex key).2 < 2^128 := by
  cases n with
  | zero =>
    cases named
    intro _ absent
    cases absent
  | succ n =>
    obtain ⟨before,k,asked,next,rfl⟩ := request_succ named
    obtain ⟨⟨row,inPage,rfl⟩,_⟩ := (asked_spec positive asked).ended k next
    intro _ same
    cases same
    exact matching_small (mem_beyond.mp ((asked_spec positive asked).taken.subset inPage)).1

variable (accepted : wantedIdentifier server filters = .ok wanted)
include accepted

theorem asked_eq (n : Nat) : asked server filters inventories limits n =
    (request AssetRow.key (fun i => matching server filters wanted (inventories i)) (fun i => clamp (limits i)) n).map
      (Option.map cursorOf) := by
  induction n with
  | zero => rfl
  | succ n ih =>
    rw [asked,ih,request]
    cases named : request AssetRow.key (fun i => matching server filters wanted (inventories i)) (fun i => clamp (limits i)) n with
    | none => rfl
    | some after =>
      simp only [Option.map_some,listAssets_eq _ _ (request_small named) accepted,Option.bind_some]
      cases (page AssetRow.key (clamp (limits n)) after (matching server filters wanted (inventories n))).2 <;> rfl

theorem listed_eq (n : Nat) : listed server filters inventories limits n =
    shown AssetRow.key (fun i => matching server filters wanted (inventories i)) (fun i => clamp (limits i)) n := by
  rw [listed,shown,asked_eq accepted]
  cases named : request AssetRow.key (fun i => matching server filters wanted (inventories i)) (fun i => clamp (limits i)) n with
  | none => rfl
  | some after => simp only [Option.map_some,listAssets_eq _ _ (request_small named) accepted]

theorem visited_eq (n : Nat) : visited server filters inventories limits n =
    seen AssetRow.key (fun i => matching server filters wanted (inventories i)) (fun i => clamp (limits i)) n := by
  rw [visited,seen]
  exact congrArg (fun pages => (List.range n).flatMap pages) (funext (listed_eq accepted))

theorem over_iff (n : Nat) : Over server filters inventories limits n ↔
    EndsAt AssetRow.key (fun i => matching server filters wanted (inventories i)) (fun i => clamp (limits i)) n := by
  rw [Over,EndsAt,asked_eq accepted]
  constructor
  · intro ⟨cursor,rows,mapped,answer⟩
    obtain ⟨after,named,rfl⟩ := Option.map_eq_some_iff.mp mapped
    rw [listAssets_eq _ _ (request_small named) accepted] at answer
    have final := (Prod.mk.inj (Except.ok.inj answer)).2
    exact ⟨after,named,Option.map_eq_none_iff.mp final⟩
  · intro ⟨after,named,final⟩
    have answer := listAssets_eq (inventories n) (limits n) (request_small named) accepted
    rw [final] at answer
    exact ⟨_,_,Option.map_eq_some_iff.mpr ⟨after,named,rfl⟩,answer⟩

theorem increasing (n : Nat) :
    (visited server filters inventories limits n).Pairwise fun first second => first.key < second.key := by
  rw [visited_eq accepted]
  exact seen_increasing positive fun i => matching_distinct (inventories i)

theorem visits_eq_one {key : Datetime ×ₗ Nat} (seen : ∃ row ∈ visited server filters inventories limits n, row.key = key) :
    visits server filters inventories limits n key = 1 := by
  obtain ⟨row,member,rfl⟩ := seen
  exact countP_increasing AssetRow.key (increasing accepted n) member fun _ => decide_eq_true_iff

end Simulation

theorem datetime_finite : Finite Datetime :=
  Finite.of_injective (fun stamp => (⟨stamp.rank,stamp.rank_lt⟩ : Fin (10000 * 13 * 32 * 24 * 60 * 60 * 1000000)))
    fun _ _ same => Datetime.rank_injective (Fin.mk.inj same)

theorem keys_finite : {key : Datetime ×ₗ Nat | (ofLex key).2 < 2^128}.Finite := by
  have : Finite Datetime := datetime_finite
  apply (Set.finite_range fun key : Datetime × Fin (2^128) => (toLex (key.1,key.2.val) : Datetime ×ₗ Nat)).subset
  intro key small
  exact ⟨((ofLex key).1,⟨(ofLex key).2,small⟩),rfl⟩

variable {server filters inventories limits wanted}

/-- Following the cursors visits each matching asset that stays, once and in order, and ends. -/
theorem pagination_complete (accepted : wantedIdentifier server filters = .ok wanted) :
    PaginationComplete server filters inventories limits wanted := by
  constructor
  · intro n cursor named
    rw [asked_eq accepted] at named
    obtain ⟨after,request,rfl⟩ := Option.map_eq_some_iff.mp named
    exact ⟨_,listAssets_eq _ _ (request_small request) accepted⟩
  · exact increasing accepted
  · intro n row member
    rw [listed_eq accepted] at member
    exact shown_mem positive member
  · intro n ended key present
    apply visits_eq_one accepted
    rw [visited_eq accepted]
    exact seen_complete positive ((over_iff accepted n).mp ended) present
  · intro key keys present within
    apply visits_eq_one accepted
    rw [visited_eq accepted]
    exact seen_reached positive (fun i => present i i le_rfl) within
  · intro keys within
    obtain ⟨n,few,ends⟩ := exists_endsAt positive within
    exact ⟨n,few,(over_iff accepted n).mpr ends⟩
  · obtain ⟨n,_,ends⟩ := exists_endsAt positive fun i row member =>
      keys_finite.mem_toFinset.mpr (matching_small member)
    exact ⟨n,(over_iff accepted n).mpr ends⟩
  · exact decodeCursor_encodeCursor server

end AssetService

def labServer : Server where
  toPython := labPython
  b64decode _ := none
  fromisoformat _ := none
  uuid _ := none
  lowerSql := labPython.lower

def labStamp : Datetime := ⟨2026,1,1,0,0,0,0,by decide,by decide⟩

def labInventory : Inventory where
  assets := ⟨[⟨labHost 1 "pve-01",labStamp⟩,⟨labHost 2 "pve-02",labStamp⟩],by decide⟩
  identifiers := labTables.identifiers

def labFilters : Filters where
  assetType := some "HOST"
  identifier := some "serial: sn1"

theorem labFilters_accepted : AssetService.wantedIdentifier labServer labFilters = .ok (some ("serial","SN1")) := rfl

theorem pagination_complete_lab : AssetService.wantedIdentifier labServer labFilters = .ok (some ("serial","SN1")) ∧
    AssetService.PaginationComplete labServer labFilters (fun _ => labInventory) (fun _ => 1) (some ("serial","SN1")) :=
  ⟨labFilters_accepted,AssetService.pagination_complete labFilters_accepted⟩

end Acop.Cmdb
