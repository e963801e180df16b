import Acop.Canonical
import Acop.Fallible
import Acop.Guarantee.Target
import Acop.Proxmox.Adapter

/-! Which paths the Proxmox adapter can request, whatever the upstream answers. -/
namespace Acop.Proxmox
open Acop.Transaction

section Rules

def inventories : List (String × List (String × String)) :=
  [("/api2/json/nodes",[]),("/api2/json/cluster/resources",[("type","vm")])]

/-- The node of a record in an inventory that the upstream answered. -/
def Reported (text : Text) (past : Exchanges) (node : String) : Prop :=
  ∃ inventory ∈ inventories, ∃ entries record,
    (⟨.get inventory.1 inventory.2,.ok (.arr entries)⟩ : Exchange Answer) ∈ past ∧ .obj record ∈ entries ∧
      textOf text record "node" = node

structure NodeSegment (segment : List Char) : Prop where
  present : segment ≠ []
  flat : '/' ∉ segment
  here : segment ≠ ['.']
  above : segment ≠ ['.','.']

def Numeral (segment : List Char) : Prop :=
  ∃ first rest, segment = first::rest ∧ ('1' ≤ first ∧ first ≤ '9') ∧ ∀ digit ∈ rest, digit.isDigit = true

variable (text : Text) (target : ResolvedTarget) (instanceId : String)

/-- What may stand where a template has a segment. -/
inductive Fills (past : Exchanges) : List Char → List Char → Prop
  | literal {segment : List Char} (plain : '\x7b' ∉ segment) : Fills past segment segment
  | node {node : String} (reported : Reported text past node) (safe : NodeSegment (quote node).toList) :
    Fills past "\x7bnode\x7d".toList (quote node).toList
  | vmid {vmid : Int} (registered : parseVmid text target instanceId = .ok vmid) (numeral : Numeral (toString vmid).toList) :
    Fills past "\x7bvmid\x7d".toList (toString vmid).toList

/-- The path is an instance of a template of the allow-list, segment by segment. -/
def AllowListed (past : Exchanges) (path : String) (query : List (String × String)) : Prop :=
  ∃ tool endpoint, toolEndpoints.lookup tool = some endpoint ∧ query = endpoint.query ∧
    List.Forall₂ (Fills text target instanceId past) (endpoint.template.toList.splitOn '/') (path.toList.splitOn '/')

def Permitted (past : Exchanges) : Call → Prop
  | .remaining => True
  | .get path query => AllowListed text target instanceId past path query

end Rules

section Quote

theorem escapeDigit_flat {digit : Nat} (small : digit < 16) : escapeDigit digit ≠ '/' := by
  revert small
  revert digit
  decide

theorem quoteChar_flat (char : Char) : '/' ∉ quoteChar char := by
  unfold quoteChar
  split
  · rename_i plain
    intro member
    rw [← List.mem_singleton.mp member] at plain
    revert plain
    decide
  · intro member
    obtain ⟨byte,_,member⟩ := List.mem_flatMap.mp member
    have high : byte.toNat / 16 < 16 := by
      have bound := byte.toNat_lt
      omega
    have low : byte.toNat % 16 < 16 := Nat.mod_lt _ (by decide)
    simp only [List.mem_cons,List.not_mem_nil,or_false] at member
    rcases member with escape | first | second
    · revert escape
      decide
    · exact escapeDigit_flat high first.symm
    · exact escapeDigit_flat low second.symm

theorem quote_flat (value : String) : '/' ∉ (quote value).toList := by
  intro member
  rw [quote,String.toList_ofList] at member
  obtain ⟨char,_,member⟩ := List.mem_flatMap.mp member
  exact quoteChar_flat char member

theorem quote_unreserved {value : String} (plain : ∀ char ∈ value.toList, unreserved char = true) :
    (quote value).toList = value.toList := by
  rw [quote,String.toList_ofList]
  have same : ∀ symbols : List Char, (∀ char ∈ symbols, unreserved char = true) → symbols.flatMap quoteChar = symbols := by
    intro symbols
    induction symbols with
    | nil => intro _; rfl
    | cons char rest ih =>
      intro plain
      have first : quoteChar char = [char] := if_pos (plain char (.head _))
      rw [List.flatMap_cons,first,ih fun other member => plain other (.tail _ member)]
      rfl
  exact same _ plain

theorem alphanum_unreserved {char : Char} (plain : char.isAlphanum = true) : unreserved char = true := by
  rw [unreserved,plain,Bool.true_or]

/-- `$` lets one newline through behind the name, which is quoted too. -/
theorem nodeSegment_of_matches {node : String} (matched : matchesNode node = true) : NodeSegment (quote node).toList := by
  obtain ⟨first,rest,symbols,start⟩ : ∃ first rest, node.toList = first::rest ∧ first.isAlphanum = true := by
    unfold matchesNode at matched
    cases trimmed : withoutFinalNewline node.toList with
    | nil =>
      rw [trimmed] at matched
      cases matched
    | cons first rest =>
      rw [trimmed] at matched
      have start : first.isAlphanum = true := (Bool.and_eq_true_iff.mp (Bool.and_eq_true_iff.mp matched).1).1
      unfold withoutFinalNewline at trimmed
      split at trimmed
      · rename_i newline
        exact ⟨first,rest ++ ['\n'],by rw [← List.dropLast_append_getLast? _ newline,trimmed]; rfl,start⟩
      · exact ⟨first,rest,trimmed,start⟩
  have quoted : (quote node).toList = first::rest.flatMap quoteChar := by
    rw [quote,String.toList_ofList,symbols,List.flatMap_cons,quoteChar,if_pos (alphanum_unreserved start)]
    rfl
  have apart : first ≠ '.' := by
    rintro rfl
    revert start
    decide
  refine ⟨by simp [quoted],quote_flat node,?_,?_⟩
  · intro dot
    rw [quoted] at dot
    exact apart (List.cons.inj dot).1
  · intro dots
    rw [quoted] at dots
    exact apart (List.cons.inj dots).1

theorem numeral_of_matches {vmid : Int} (matched : matchesVmid (toString vmid) = true) :
    Numeral (toString vmid).toList ∧ (quote (toString vmid)).toList = (toString vmid).toList := by
  have whole : withoutFinalNewline (toString vmid).toList = (toString vmid).toList := by
    apply if_neg
    intro newline
    rcases Json.digit_of_int (List.mem_of_getLast? newline) with digit | sign
    · revert digit
      decide
    · revert sign
      decide
  unfold matchesVmid at matched
  rw [whole] at matched
  cases symbols : (toString vmid).toList with
  | nil =>
    rw [symbols] at matched
    cases matched
  | cons first rest =>
    rw [symbols] at matched
    simp only [Bool.and_eq_true,decide_eq_true_eq,List.all_eq_true] at matched
    obtain ⟨⟨start,digits⟩,_⟩ := matched
    refine ⟨⟨first,rest,rfl,start,digits⟩,?_⟩
    rw [← symbols]
    apply quote_unreserved
    intro char member
    apply alphanum_unreserved
    rw [symbols] at member
    unfold Char.isAlphanum
    rcases List.mem_cons.mp member with rfl | later
    · have low : 49 ≤ char.toNat := start.1
      have high : char.toNat ≤ 57 := start.2
      have digit : char.isDigit = true := by
        unfold Char.isDigit
        simp only [ge_iff_le,Bool.and_eq_true,decide_eq_true_eq,UInt32.le_iff_toNat_le]
        exact ⟨by simp; omega,by simp; omega⟩
      rw [digit,Bool.or_true]
    · rw [digits char later,Bool.or_true]

end Quote

section Format

variable {rendered : List (String × String)}

theorem format_nil : formatFrom rendered none [] = [] := rfl

theorem format_literal {segment : List Char} (plain : '\x7b' ∉ segment) (rest : List Char) :
    formatFrom rendered none (segment ++ rest) = segment ++ formatFrom rendered none rest := by
  induction segment with
  | nil => rfl
  | cons char segment ih =>
    rw [List.mem_cons,not_or] at plain
    rw [List.cons_append,formatFrom,if_neg (Ne.symm plain.1),ih plain.2]
    rfl

theorem format_name {name : List Char} (closed : '\x7d' ∉ name) (read rest : List Char) :
    formatFrom rendered (some read) (name ++ '\x7d'::rest) =
      ((rendered.lookup (String.ofList (read ++ name))).getD "").toList ++ formatFrom rendered none rest := by
  induction name generalizing read with
  | nil => rw [List.nil_append,formatFrom,if_pos rfl,List.append_nil]
  | cons char name ih =>
    rw [List.mem_cons,not_or] at closed
    rw [List.cons_append,formatFrom,if_neg (Ne.symm closed.1),ih closed.2,List.append_assoc]
    rfl

/-- A template's segment: literal text, or one placeholder. -/
inductive Piece (names : List String) : List Char → Prop
  | literal {segment : List Char} (plain : '\x7b' ∉ segment) : Piece names segment
  | placeholder {name : String} (listed : name ∈ names) (closed : '\x7d' ∉ name.toList) :
    Piece names ('\x7b'::(name.toList ++ ['\x7d']))

theorem format_piece {names : List String} {segment : List Char} (piece : Piece names segment) (rest : List Char) :
    formatFrom rendered none (segment ++ rest) = formatFrom rendered none segment ++ formatFrom rendered none rest := by
  cases piece with
  | literal plain =>
    have alone := @format_literal rendered _ plain []
    rw [List.append_nil] at alone
    rw [format_literal plain,alone,format_nil,List.append_nil]
  | placeholder listed closed =>
    rw [List.cons_append,formatFrom,if_pos rfl,formatFrom,if_pos rfl,List.append_assoc,List.singleton_append,
      format_name closed,format_name closed,format_nil,List.append_nil]

theorem format_segments {names : List String} {segments : List (List Char)}
    (pieces : ∀ segment ∈ segments, Piece names segment) :
    formatFrom rendered none (['/'].intercalate segments) = ['/'].intercalate (segments.map (formatFrom rendered none)) := by
  induction segments with
  | nil => rfl
  | cons segment rest ih =>
    cases rest with
    | nil => simp [List.intercalate_singleton]
    | cons next rest =>
      have slash (tail : List Char) : formatFrom rendered none ('/'::tail) = '/'::formatFrom rendered none tail :=
        if_neg (by decide)
      have later : ∀ segment ∈ next::rest, Piece names segment := fun other member => pieces other (.tail _ member)
      rw [List.intercalate_cons_cons,List.append_assoc,format_piece (pieces segment (.head _)),List.singleton_append,slash,
        ih later]
      simp only [List.map_cons,List.intercalate_cons_cons,List.append_assoc,List.singleton_append]

theorem endpoint_pieces {tool : String} {endpoint : EndpointTemplate} (listed : (tool,endpoint) ∈ toolEndpoints) :
    ∀ segment ∈ endpoint.template.toList.splitOn '/', Piece endpoint.segments segment := by
  have checked : (toolEndpoints.all fun entry => (entry.2.template.toList.splitOn '/').all fun segment =>
      decide ('\x7b' ∉ segment) || entry.2.segments.any fun name =>
        decide ('\x7d' ∉ name.toList ∧ segment = '\x7b'::(name.toList ++ ['\x7d']))) = true := by
    decide
  intro segment member
  have piece := List.all_eq_true.mp (List.all_eq_true.mp checked _ listed) segment member
  rcases Bool.or_eq_true_iff.mp piece with plain | placeholder
  · exact .literal (of_decide_eq_true plain)
  · obtain ⟨name,named,matched⟩ := List.any_eq_true.mp placeholder
    obtain ⟨closed,rfl⟩ := of_decide_eq_true matched
    exact .placeholder named closed

theorem endpoint_flat {tool : String} {endpoint : EndpointTemplate} (listed : (tool,endpoint) ∈ toolEndpoints) :
    ∀ segment ∈ endpoint.template.toList.splitOn '/', '/' ∉ segment := by
  have checked : (toolEndpoints.all fun entry =>
      (entry.2.template.toList.splitOn '/').all fun segment => decide ('/' ∉ segment)) = true := by
    decide
  intro segment member
  exact of_decide_eq_true (List.all_eq_true.mp (List.all_eq_true.mp checked _ listed) segment member)

end Format

section Build

variable {endpoint : EndpointTemplate} {values rendered : List (String × String)}

/-- A placeholder's value, as `values` has it. -/
def valueOf (values : List (String × String)) (name : String) : String := (values.lookup name).getD ""

theorem render_ok {name : String} {pair : String × String} (ok : endpoint.render values name = .ok pair) :
    pair = (name,quote (valueOf values name)) ∧
      ∃ pattern, segmentPatterns.lookup name = some pattern ∧ pattern (valueOf values name) = true := by
  obtain ⟨matched,done⟩ := ok_of_guard ok
  obtain ⟨pattern,found,passes⟩ := (Option.any_eq_true _ _).mp (not_not.mp matched)
  exact ⟨(Except.ok.inj done).symm,pattern,found,passes⟩

theorem renders_ok {names : List String} (ok : names.mapM (endpoint.render values) = .ok rendered) :
    rendered = names.map (fun name => (name,quote (valueOf values name))) ∧
      ∀ name ∈ names, ∃ pattern, segmentPatterns.lookup name = some pattern ∧ pattern (valueOf values name) = true := by
  induction names generalizing rendered with
  | nil =>
    cases ok
    exact ⟨rfl,fun name member => nomatch member⟩
  | cons name rest ih =>
    rw [List.mapM_cons] at ok
    obtain ⟨pair,first,ok⟩ := bind_ok ok
    obtain ⟨pairs,others,ok⟩ := bind_ok ok
    cases ok
    obtain ⟨rfl,matched⟩ := render_ok first
    obtain ⟨rfl,all⟩ := ih others
    refine ⟨rfl,fun other member => ?_⟩
    rcases List.mem_cons.mp member with rfl | later
    · exact matched
    · exact all other later

theorem lookup_rendered {names : List String} {name : String} (member : name ∈ names) :
    (names.map fun name => (name,quote (valueOf values name))).lookup name = some (quote (valueOf values name)) := by
  induction names with
  | nil => cases member
  | cons first rest ih =>
    by_cases same : name = first
    · subst same
      simp
    · have different : (name == first) = false := beq_false_of_ne same
      rw [List.map_cons,List.lookup_cons,different]
      exact ih ((List.mem_cons.mp member).resolve_left same)

theorem build_ok {path : String} {query : List (String × String)} {tool : String} (listed : (tool,endpoint) ∈ toolEndpoints)
    (built : endpoint.build values = .ok (path,query)) : query = endpoint.query ∧
      List.Forall₂ (fun segment actual => ('\x7b' ∉ segment ∧ actual = segment) ∨
        ∃ name ∈ endpoint.segments, segment = '\x7b'::(name.toList ++ ['\x7d']) ∧
          actual = (quote (valueOf values name)).toList ∧
          ∃ pattern, segmentPatterns.lookup name = some pattern ∧ pattern (valueOf values name) = true)
        (endpoint.template.toList.splitOn '/') (path.toList.splitOn '/') := by
  obtain ⟨_,done⟩ := ok_of_guard built
  obtain ⟨rendered,mapped,done⟩ := bind_ok done
  obtain ⟨rfl,matched⟩ := renders_ok mapped
  obtain ⟨rfl,rfl⟩ := Prod.mk.inj (Except.ok.inj done)
  refine ⟨rfl,?_⟩
  have fills : ∀ segment ∈ endpoint.template.toList.splitOn '/',
      ('\x7b' ∉ segment ∧ formatFrom (endpoint.segments.map fun name => (name,quote (valueOf values name))) none segment =
        segment) ∨
      ∃ name ∈ endpoint.segments, segment = '\x7b'::(name.toList ++ ['\x7d']) ∧
        formatFrom (endpoint.segments.map fun name => (name,quote (valueOf values name))) none segment =
          (quote (valueOf values name)).toList := by
    intro segment member
    cases endpoint_pieces listed segment member with
    | literal plain =>
      have alone := @format_literal (endpoint.segments.map fun name => (name,quote (valueOf values name))) _ plain []
      rw [List.append_nil,format_nil,List.append_nil] at alone
      exact .inl ⟨plain,alone⟩
    | placeholder named closed =>
      refine .inr ⟨_,named,rfl,?_⟩
      rw [formatFrom,if_pos rfl,format_name closed,List.nil_append,String.ofList_toList,lookup_rendered named,format_nil,
        List.append_nil]
      rfl
  have split : (String.ofList (formatFrom (endpoint.segments.map fun name => (name,quote (valueOf values name))) none
      endpoint.template.toList)).toList.splitOn '/' = (endpoint.template.toList.splitOn '/').map
        (formatFrom (endpoint.segments.map fun name => (name,quote (valueOf values name))) none) := by
    rw [String.toList_ofList]
    conv => lhs; rw [← @List.intercalate_splitOn _ endpoint.template.toList _ _ '/']
    rw [format_segments (endpoint_pieces listed)]
    apply List.splitOn_intercalate
    · intro actual member
      obtain ⟨segment,present,rfl⟩ := List.mem_map.mp member
      rcases fills segment present with ⟨_,same⟩ | ⟨name,_,_,same⟩
      · rw [same]
        exact endpoint_flat listed segment present
      · rw [same]
        exact quote_flat _
    · intro empty
      exact List.splitOn_ne_nil _ _ (List.map_eq_nil_iff.mp empty)
  rw [split,List.forall₂_map_right_iff,List.forall₂_same]
  intro segment member
  rcases fills segment member with literal | ⟨name,named,shape,same⟩
  · exact .inl literal
  · exact .inr ⟨name,named,shape,same,matched name named⟩

end Build

section Inventory

variable {text : Text} {target : ResolvedTarget} {instanceId : String} {data : Json}

theorem mem_listing {listing : List JsonObject} {record : JsonObject} (member : record ∈ listing) :
    Json.obj record ∈ listing.map .obj :=
  List.mem_map_of_mem member

theorem Sole.mem {meant : JsonObject → Prop} {listing : List JsonObject} {record : JsonObject} (sole : Sole meant listing record) :
    record ∈ listing := by
  obtain ⟨before,after,rfl,_,_⟩ := sole
  exact List.mem_append_right _ (.head _)

theorem resolveNode_ok {node : String} (ok : resolveNode text target instanceId (.ok data) = .ok node) :
    ∃ entries record, data = .arr entries ∧ .obj record ∈ entries ∧ textOf text record "node" = node := by
  obtain ⟨_,listing,record,_,lists,sole,named⟩ := resolveNode_iff.mp ok
  exact ⟨_,record,Except.ok.inj lists,mem_listing sole.mem,named⟩

theorem resolveGuest_ok {guestType : String} {location : GuestLocation}
    (ok : resolveGuest text target instanceId guestType (.ok data) = .ok location) :
    parseVmid text target instanceId = .ok location.vmid ∧
      ∃ entries record, data = .arr entries ∧ .obj record ∈ entries ∧ textOf text record "node" = location.node := by
  obtain ⟨vmid,parsed,rest⟩ := bind_ok ok
  obtain ⟨_,same,rest⟩ := bind_ok rest
  obtain ⟨listing,listed,_⟩ := bind_ok rest
  cases same
  have lists : Inventoried (.ok data) listing := inventoried_iff.mp ⟨data,rfl,listed⟩
  obtain ⟨rfl,_,sole,named,_⟩ := (resolveGuest_iff parsed lists).mp ok
  exact ⟨parsed,_,_,Except.ok.inj lists,mem_listing sole.mem,named⟩

theorem onlineNames_ok {listing : List JsonObject} {names : List String} (ok : onlineNames text listing = .ok names) :
    ∀ name ∈ names, ∃ record ∈ listing, textOf text record "node" = name := by
  induction listing generalizing names with
  | nil =>
    cases ok
    intro name member
    cases member
  | cons record rest ih =>
    obtain ⟨_,ok⟩ := ok_of_guard ok
    obtain ⟨others,found,ok⟩ := bind_ok ok
    have later : ∀ name ∈ others, ∃ other ∈ record::rest, textOf text other "node" = name := by
      intro name member
      obtain ⟨other,present,named⟩ := ih found name member
      exact ⟨other,.tail _ present,named⟩
    intro name member
    have kept := Except.ok.inj ok
    split at kept
    · subst kept
      rcases List.mem_cons.mp member with rfl | member
      · exact ⟨record,.head _,rfl⟩
      · exact later name member
    · subst kept
      exact later name member

end Inventory

section Conversation

variable {text : Text} {target : ResolvedTarget} {instanceId : String} {past : Exchanges}

theorem Reported.append {node : String} (reported : Reported text past node) (later : Exchanges) :
    Reported text (past ++ later) node := by
  obtain ⟨inventory,listed,entries,record,answered,present,named⟩ := reported
  exact ⟨inventory,listed,entries,record,List.mem_append_left _ answered,present,named⟩

def Sourced (text : Text) (target : ResolvedTarget) (instanceId : String) (past : Exchanges) (name value : String) : Prop :=
  (name = "node" ∧ Reported text past value) ∨
    (name = "vmid" ∧ ∃ vmid, parseVmid text target instanceId = .ok vmid ∧ value = toString vmid)

theorem Sourced.append {name value : String} (sourced : Sourced text target instanceId past name value) (later : Exchanges) :
    Sourced text target instanceId (past ++ later) name value :=
  sourced.imp_left fun node => ⟨node.1,node.2.append later⟩

theorem allowListed_of_build {tool : String} {endpoint : EndpointTemplate} {values : List (String × String)} {path : String}
    {query : List (String × String)} (found : toolEndpoints.lookup tool = some endpoint)
    (sourced : ∀ name ∈ endpoint.segments, Sourced text target instanceId past name (valueOf values name))
    (built : endpoint.build values = .ok (path,query)) : AllowListed text target instanceId past path query := by
  have listed : (tool,endpoint) ∈ toolEndpoints := by
    obtain ⟨before,after,split,_⟩ := List.lookup_eq_some_iff.mp found
    rw [split]
    exact List.mem_append_right _ (.head _)
  obtain ⟨same,segments⟩ := build_ok listed built
  refine ⟨tool,endpoint,found,same,segments.imp ?_⟩
  intro segment actual filled
  rcases filled with ⟨plain,rfl⟩ | ⟨name,named,rfl,rfl,pattern,known,matched⟩
  · exact .literal plain
  rcases sourced name named with ⟨rfl,reported⟩ | ⟨rfl,vmid,registered,value⟩
  · cases known
    exact .node reported (nodeSegment_of_matches matched)
  · cases known
    rw [value] at matched ⊢
    obtain ⟨numeral,plain⟩ := numeral_of_matches matched
    rw [plain]
    exact .vmid registered numeral

variable {α : Type} {promised : Exchanges → α → Prop}

theorem issues_lift {result : Except Refusal α} (kept : ∀ value, result = .ok value → promised past value) :
    Program.Issues (Permitted text target instanceId) promised past (lift result) := by
  cases result with
  | error refusal => exact .fail
  | ok value => exact .done (kept value rfl)

theorem issues_ask {call : Call} {promised : Exchanges → Answer call → Prop} (permitted : Permitted text target instanceId past call)
    (answered : ∀ answer, promised (past ++ [⟨call,answer⟩]) answer) :
    Program.Issues (Permitted text target instanceId) promised past (ask call) :=
  Program.issues_query permitted answered

theorem issues_getData {key : String} {values : List (String × String)} {promised : Exchanges → Json → Prop}
    (sourced : ∀ endpoint, toolEndpoints.lookup key = some endpoint → ∀ name ∈ endpoint.segments,
      Sourced text target instanceId past name (valueOf values name))
    (kept : ∀ endpoint path query remaining data, toolEndpoints.lookup key = some endpoint →
      endpoint.build values = .ok (path,query) →
        promised (past ++ [⟨.remaining,remaining⟩] ++ [⟨.get path query,.ok data⟩]) data) :
    Program.Issues (Permitted text target instanceId) promised past (getData key values) := by
  unfold getData
  split
  · exact .fail
  rename_i endpoint found
  apply Program.issues_bind
  apply issues_lift
  rintro ⟨path,query⟩ built
  apply Program.issues_bind
  have clock : Permitted text target instanceId past .remaining := trivial
  refine issues_ask clock fun remaining => ?_
  split
  · exact .fail
  apply Program.issues_bind
  have sent : Permitted text target instanceId (past ++ [⟨.remaining,remaining⟩]) (.get path query) :=
    allowListed_of_build found (fun name member => (sourced endpoint found name member).append _) built
  refine @issues_ask _ _ _ _ (.get path query) _ sent fun answer => ?_
  cases answer with
  | ok data => exact .done (kept endpoint path query remaining data found built)
  | error fault => exact .fail

theorem issues_read {key : String} {values : List (String × String)}
    (sourced : ∀ endpoint, toolEndpoints.lookup key = some endpoint → ∀ name ∈ endpoint.segments,
      Sourced text target instanceId past name (valueOf values name)) :
    Program.Issues (Permitted text target instanceId) (fun later _ => past <+: later) past (getData key values) :=
  issues_getData sourced fun _ _ _ _ _ _ _ => ⟨_,(List.append_assoc _ _ _).symm⟩

theorem issues_inventory {key : String} (inventory : key ∈ [nodeInventory,guestInventory]) :
    Program.Issues (Permitted text target instanceId) (fun later data => past <+: later ∧
      ∃ inventory ∈ inventories, (⟨.get inventory.1 inventory.2,.ok data⟩ : Exchange Answer) ∈ later) past
      (getData key []) := by
  have plain : ∀ endpoint, toolEndpoints.lookup key = some endpoint → endpoint.segments = [] ∧
      ∀ path query, endpoint.build [] = .ok (path,query) → (path,query) ∈ inventories := by
    intro endpoint found
    simp only [List.mem_cons,List.not_mem_nil,or_false] at inventory
    rcases inventory with rfl | rfl
    · cases found
      refine ⟨rfl,fun path query built => ?_⟩
      cases built
      exact .head _
    · cases found
      refine ⟨rfl,fun path query built => ?_⟩
      cases built
      exact .tail _ (.head _)
  apply issues_getData
  · intro endpoint found name member
    rw [(plain endpoint found).1] at member
    cases member
  · intro endpoint path query remaining data found built
    refine ⟨⟨_,(List.append_assoc _ _ _).symm⟩,(path,query),(plain endpoint found).2 path query built,?_⟩
    exact List.mem_append_right _ (List.mem_singleton_self _)

theorem issues_findNode : Program.Issues (Permitted text target instanceId) (Reported text) past
    (findNode text target instanceId) := by
  apply Program.issues_bind
  apply issues_lift
  intro _ _
  apply Program.issues_bind
  apply Program.issues_weaken (issues_inventory (.head _))
  rintro later data ⟨_,inventory,listed,answered⟩
  apply issues_lift
  intro node found
  obtain ⟨entries,record,rfl,present,named⟩ := resolveNode_ok found
  exact ⟨inventory,listed,entries,record,answered,present,named⟩

theorem issues_findGuest (guestType : String) : Program.Issues (Permitted text target instanceId)
    (fun later location => Reported text later location.node ∧
      parseVmid text target instanceId = .ok location.vmid) past (findGuest text target instanceId guestType) := by
  apply Program.issues_bind
  apply issues_lift
  intro _ _
  apply Program.issues_bind
  apply Program.issues_weaken (issues_inventory (.tail _ (.head _)))
  rintro later data ⟨_,inventory,listed,answered⟩
  apply issues_lift
  intro location found
  obtain ⟨parsed,entries,record,rfl,present,named⟩ := resolveGuest_ok found
  exact ⟨⟨inventory,listed,entries,record,answered,present,named⟩,parsed⟩

theorem issues_onlineNodes : Program.Issues (Permitted text target instanceId)
    (fun later names => ∀ name ∈ names, Reported text later name) past (onlineNodes text) := by
  apply Program.issues_bind
  apply Program.issues_weaken (issues_inventory (.head _))
  rintro later data ⟨_,inventory,listed,answered⟩
  apply issues_lift
  intro names found name member
  obtain ⟨listing,converted,kept⟩ := bind_ok found
  obtain rfl := records_ok converted
  obtain ⟨record,present,named⟩ := onlineNames_ok kept name member
  exact ⟨inventory,listed,_,record,answered,mem_listing present,named⟩

section Adapter

variable {projection : Projection}

theorem sourced_node {key node : String} (slots : ∀ endpoint, toolEndpoints.lookup key = some endpoint →
    endpoint.segments = ["node"]) (reported : Reported text past node) :
    ∀ endpoint, toolEndpoints.lookup key = some endpoint → ∀ name ∈ endpoint.segments,
      Sourced text target instanceId past name (valueOf [("node",node)] name) := by
  intro endpoint found name member
  rw [slots endpoint found] at member
  cases List.mem_singleton.mp member
  exact .inl ⟨rfl,reported⟩

theorem issues_storageRows {nodes : List String} (reported : ∀ node ∈ nodes, Reported text past node) :
    Program.Issues (Permitted text target instanceId) (fun _ _ => True) past (storageRows projection nodes) := by
  induction nodes generalizing past with
  | nil => exact .done trivial
  | cons node rest ih =>
    apply Program.issues_bind
    have slots : ∀ endpoint, toolEndpoints.lookup "proxmox.storage.list" = some endpoint → endpoint.segments = ["node"] := by
      rintro endpoint ⟨⟩
      rfl
    apply Program.issues_weaken (issues_read (sourced_node slots (reported node (.head _))))
    rintro later data ⟨more,rfl⟩
    apply Program.issues_bind
    apply issues_lift
    intro rows _
    apply Program.issues_bind
    apply Program.issues_weaken (ih fun other member => (reported other (.tail _ member)).append more)
    intro _ _ _
    exact .done trivial

theorem issues_storage : Program.Issues (Permitted text target instanceId) (fun _ _ => True) past
    (storage text projection target instanceId) := by
  apply Program.issues_bind
  apply issues_lift
  intro named _
  apply Program.issues_bind
  apply Program.issues_weaken issues_onlineNodes
  intro later nodes reported
  apply Program.issues_bind
  apply Program.issues_weaken (issues_storageRows reported)
  intro _ _ _
  exact issues_lift fun _ _ => trivial

theorem issues_node {toolName : String} (slots : ∀ endpoint, toolEndpoints.lookup toolName = some endpoint →
    endpoint.segments = ["node"]) : Program.Issues (Permitted text target instanceId) (fun _ _ => True) past (do
      let node ← findNode text target instanceId
      let data ← getData toolName [("node",node)]
      lift (projection.node toolName instanceId node data)) := by
  apply Program.issues_bind
  apply Program.issues_weaken issues_findNode
  intro later node reported
  apply Program.issues_bind
  refine Program.issues_weaken (issues_read ?_) fun _ _ _ => issues_lift fun _ _ => trivial
  exact sourced_node slots reported

theorem issues_guest {toolName : String} (slots : ∀ endpoint, toolEndpoints.lookup toolName = some endpoint →
    endpoint.segments = ["node","vmid"]) : Program.Issues (Permitted text target instanceId) (fun _ _ => True) past
      (guest text projection target instanceId toolName) := by
  apply Program.issues_bind
  apply Program.issues_weaken (issues_findGuest _)
  rintro later location ⟨reported,parsed⟩
  apply Program.issues_bind
  refine Program.issues_weaken (issues_read ?_) fun _ _ _ => ?_
  · intro endpoint found name member
    rw [slots endpoint found] at member
    simp only [List.mem_cons,List.not_mem_nil,or_false] at member
    rcases member with rfl | rfl
    · exact .inl ⟨rfl,reported⟩
    · exact .inr ⟨rfl,location.vmid,parsed,rfl⟩
  · split
    · exact issues_lift fun _ _ => trivial
    · exact .fail

theorem segments_of_supported {toolName : String} (supported : toolName ∈ supportedTools) :
    ∀ endpoint, toolEndpoints.lookup toolName = some endpoint →
      (toolName ∈ ["proxmox.cluster.status","proxmox.node.list","proxmox.guest.list"] → endpoint.segments = []) ∧
      (toolName ∈ ["proxmox.node.status","proxmox.node.network"] → endpoint.segments = ["node"]) ∧
      (toolName ∉ ["proxmox.cluster.status","proxmox.node.list","proxmox.guest.list"] → toolName ≠ "proxmox.storage.list" →
        toolName ∉ ["proxmox.node.status","proxmox.node.network"] → endpoint.segments = ["node","vmid"]) := by
  simp only [supportedTools,List.mem_cons,List.not_mem_nil,or_false] at supported
  rcases supported with rfl | rfl | rfl | rfl | rfl | rfl | rfl | rfl | rfl | rfl
  all_goals
    rintro endpoint ⟨⟩
    decide

theorem issues_whole {toolName : String} (slots : ∀ endpoint, toolEndpoints.lookup toolName = some endpoint →
    endpoint.segments = []) : Program.Issues (Permitted text target instanceId) (fun _ _ => True) past (do
      let _ ← lift (requireInstance text target instanceId)
      let data ← getData toolName []
      lift (projection.instance_ toolName instanceId data)) := by
  apply Program.issues_bind
  apply issues_lift
  intro _ _
  apply Program.issues_bind
  refine Program.issues_weaken (issues_read ?_) fun _ _ _ => issues_lift fun _ _ => trivial
  intro endpoint found name member
  rw [slots endpoint found] at member
  cases member

theorem issues_observe {toolName : String} (supported : toolName ∈ supportedTools) :
    Program.Issues (Permitted text target instanceId) (fun _ _ => True) past
      (observe text projection target instanceId toolName) := by
  have shape := segments_of_supported supported
  unfold observe
  by_cases whole : toolName ∈ ["proxmox.cluster.status","proxmox.node.list","proxmox.guest.list"]
  · rw [if_pos whole]
    exact issues_whole fun endpoint found => (shape endpoint found).1 whole
  rw [if_neg whole]
  by_cases fanned : toolName = "proxmox.storage.list"
  · rw [if_pos fanned]
    exact issues_storage
  rw [if_neg fanned]
  by_cases routed : toolName ∈ ["proxmox.node.status","proxmox.node.network"]
  · rw [if_pos routed]
    exact issues_node fun endpoint found => (shape endpoint found).2.1 routed
  · rw [if_neg routed]
    exact issues_guest fun endpoint found => (shape endpoint found).2.2 whole fanned routed

end Adapter

end Conversation

/-- Only allow-listed paths: in every conversation, whatever the tool, the target, the clock and
the upstream's answers, each path that is requested is a template of the allow-list filled
segment by segment, with that template's query; its node is the node of a record in an earlier
inventory answer, and its VMID the registered one. -/
theorem requests_allow_listed (text : Text) (projection : Projection) (target : ResolvedTarget)
    (client : Except AdapterFault String) (toolName toolVersion : String) (remote : Remote Answer)
    (before after : Exchanges) (path : String) (query : List (String × String)) (answer : Except AdapterFault Json)
    (sent : ((execute text projection target client toolName toolVersion).converse remote []).1 =
      before ++ ⟨.get path query,answer⟩::after) :
    ∃ instanceId, client = .ok instanceId ∧ AllowListed text target instanceId before path query := by
  unfold execute at sent
  split at sent
  · exact absurd (congrArg List.length sent) (by simp [Program.converse])
  rename_i supported
  cases client with
  | error fault => exact absurd (congrArg List.length sent) (by simp [Program.converse])
  | ok instanceId =>
    have issues : Program.Issues (Permitted text target instanceId) (fun _ _ => True) []
        (observe text projection target instanceId toolName) := issues_observe (not_not.mp supported)
    exact ⟨instanceId,rfl,Program.issues_converse remote issues sent (Nat.zero_le _)⟩

def labListing : Json := .arr [.obj [("type",.str "qemu"),("vmid",.int 100),("node",.str "pve-01")]]

/-- An upstream with time to spare, one virtual machine, and nothing to say of it. -/
def labUpstream : Remote Answer := fun _ call => match call with
  | .remaining => (10 : Rat)
  | .get path _ => if path = "/api2/json/cluster/resources" then .ok labListing else .ok (.obj [])

/-- The second request of the conversation about that machine. -/
theorem requests_allow_listed_lab : ∃ instanceId, (Except.ok "lab" : Except AdapterFault String) = .ok instanceId ∧
    AllowListed labText labMachine instanceId
      [⟨.remaining,(10 : Rat)⟩,
        ⟨.get "/api2/json/cluster/resources" [("type","vm")],.ok labListing⟩,
        ⟨.remaining,(10 : Rat)⟩]
      "/api2/json/nodes/pve-01/qemu/100/status/current" [] :=
  requests_allow_listed labText labProjection labMachine (.ok "lab") "proxmox.vm.status" "1.0" labUpstream _ [] _ _
    (.ok (.obj [])) rfl

end Acop.Proxmox
