import SingBox.Routing.MatchRule

/-! # Streams

`routeConnection` puts the data that sniff actions have read before the rest of
the connection, one buffer after another. Every buffer goes before those that
are already there, so the last one comes out first.
-/

namespace SingBox.Routing

open Adapter Sniff List Router

/-! ## What a stream yields -/

def streamData (reads : List StreamRead) : Bytes :=
  reads.flatMap fun
    | .noDeadline _ => []
    | .read data _ => data

def Input.data : Input → Bytes
  | .stream reads => streamData reads
  | .packets _ => []

/-- A connection and the buffers that are attached to it; `cached` is what
`bufio.NewCachedConn` of the library `sing` makes. -/
inductive Conn
  | raw (input : Input)
  | cached (conn : Conn) (buffer : Bytes)

def Conn.stream : Conn → Bytes
  | .raw input => input.data
  | .cached conn buffer => buffer ++ conn.stream

/-! ## Routing -/

inductive Routed
  | injected (inbound : String) (conn : Conn)
  | hijackDNS (conn : Conn)
  | outbound (outbound : Outbound) (conn : Conn)

def attach (conn : Conn) (buffers : List Bytes) : Conn := buffers.foldl .cached conn

namespace Router

variable (router : Router)

def toOutbound (complaint : String) (outbound : Outbound) (conn : Conn) : Except Err Routed :=
  if "tcp" ∈ outbound.network then .ok (.outbound outbound conn)
  else .error (.new (complaint ++ outbound.tag))

def toTag (tag : String) (conn : Conn) : Except Err Routed :=
  match router.outbound tag with
  | none => .error (.new ("outbound not found: " ++ tag))
  | some outbound => toOutbound "TCP is not supported by outbound: " outbound conn

/-- After the rules. -/
def dispatch (matched : Matched) : Except Err Routed :=
  let conn := attach (.raw matched.state.input) matched.state.buffers
  match matched.selected.bind fun index => router.rules[index]? with
  | none => toOutbound "TCP is not supported by default outbound: " router.defaultOutbound conn
  | some rule =>
    match rule.action with
    | .route outbound _ | .bypass outbound _ => router.toTag outbound conn
    | .reject .reply _ => .error (.new "reject method `reply` is not supported for TCP connections")
    | .reject _ _ => .error (.new "rejected")
    | .hijackDNS => .ok (.hijackDNS conn)
    -- the other actions are never selected
    | _ => .error .invalid

def routeConnection (metadata : Context) (reads : List StreamRead) : Except Err Routed :=
  if metadata.inboundDetour ≠ "" then
    if metadata.lastInbound = metadata.inboundDetour then
      .error (.new ("routing loop on detour: " ++ metadata.inboundDetour))
    else
      match router.inbound metadata.inboundDetour with
      | none => .error (.new ("inbound detour not found: " ++ metadata.inboundDetour))
      | some false =>
        .error (.new ("inbound detour is not TCP injectable: " ++ metadata.inboundDetour))
      | some true => .ok (.injected metadata.inboundDetour (.raw (.stream reads)))
  else
    match router.deprecatedDestination metadata.destination.fqdn with
    | some err => .error err
    | none =>
      if metadata.inboundType = "tun" ∧ metadata.protocol = "dns" then
        .ok (.hijackDNS (.raw (.stream reads)))
      else
        let matched := router.matchRule { metadata with network := "tcp" } (.stream reads)
        match matched.fatalErr with
        | some err => .error err
        | none => router.dispatch matched

/-- The data that the sniff actions read, one buffer for each that reads any. -/
def sniffedBuffers (metadata : Context) (reads : List StreamRead) : List Bytes :=
  (router.matchRule { metadata with network := "tcp" } (.stream reads)).state.buffers

end Router

/-! ## No data are lost -/

section

variable {router : Router}

theorem peekStream_data (sniffers : List AnySniffer) (front : Bytes) (size : Nat)
    (previous : Option (Option SniffError)) (sniffed : Sniffed) (buffer : Bytes)
    (reads : List StreamRead) :
    (peekStream sniffers front size previous sniffed buffer reads).buffer ++
        streamData (peekStream sniffers front size previous sniffed buffer reads).reads =
      buffer ++ streamData reads := by
  induction reads generalizing previous sniffed buffer with
  | nil => rfl
  | cons read reads induction =>
    cases read with
    | noDeadline err => rfl
    | read data err =>
      have isPartial : buffer ++ data.take (size - buffer.length) ++
          streamData (.read (data.drop (size - buffer.length)) err :: reads) =
            buffer ++ streamData (.read data err :: reads) := by
        simp only [streamData, flatMap_cons]
        rw [append_assoc, ← append_assoc (data.take _), take_append_drop]
      have isWhole : buffer ++ data ++ streamData reads =
          buffer ++ streamData (.read data err :: reads) := by
        simp only [streamData, flatMap_cons]
        rw [append_assoc]
      cases err with
      | some =>
        rw [peekStream]
        split
        · rfl
        split
        · exact isPartial
        · exact isWhole
      | none =>
        rw [peekStream]
        split
        · rfl
        split
        · exact isPartial
        dsimp only
        split
        · rw [induction, isWhole]
        · exact isWhole

/-- The buffers and what is left of the stream are the data of the client. -/
def Kept (data : Bytes) (state : Matching) : Prop :=
  ∃ reads, state.input = .stream reads ∧ state.buffers.flatten ++ streamData reads = data

theorem ruleStep_kept {data : Bytes} (rule : Rule) (state : Matching) (kept : Kept data state) :
    Kept data (router.ruleStep rule state).state := by
  cases isSniff : rule.sniffing state.metadata with
  | none =>
    rcases ruleStep_of_none isSniff with ⟨metadata, isStep⟩
    rw [isStep]
    exact kept
  | some action =>
    rcases kept with ⟨reads, isInput, isData⟩
    rw [ruleStep_of_some isSniff, actionSniff, isInput]
    dsimp only
    split
    · have isKept := peekStream_data (router.streamSniffers action) state.buffers.flatten
        router.packetSize none state.metadata.sniffed [] reads
      rw [sniffStream]
      generalize peekStream _ _ _ _ _ _ _ = peek at isKept ⊢
      refine ⟨peek.reads, rfl, ?_⟩
      rw [nil_append] at isKept
      rw [Matching.addBuffers, flatten_append, append_assoc, ← isData, ← isKept]
      by_cases isEmpty : peek.buffer = [] <;> simp [isEmpty]
    · refine ⟨reads, rfl, ?_⟩
      rw [Matching.addBuffers, Option.toList_none, append_nil, isData]

theorem matchRule_kept (metadata : Context) (reads : List StreamRead) :
    Kept (streamData reads) (router.matchRule metadata (.stream reads)).state := by
  rw [matchRule]
  split
  · exact ⟨reads, rfl, rfl⟩
  · exact matchRules_invariant ruleStep_kept ⟨reads, rfl, rfl⟩

end

/-! ## The order of the buffers -/

theorem stream_attach (conn : Conn) (buffers : List Bytes) :
    (attach conn buffers).stream = buffers.reverse.flatten ++ conn.stream := by
  rw [attach]
  induction buffers generalizing conn with
  | nil => rfl
  | cons _ _ induction =>
    rw [foldl_cons, induction, reverse_cons, flatten_append, flatten_singleton, append_assoc]
    rfl

section

variable {router : Router} {conn given : Conn} {outbound : Outbound}

theorem toOutbound_conn {complaint : String} {chosen : Outbound}
    (isOk : toOutbound complaint chosen given = .ok (.outbound outbound conn)) : conn = given := by
  rw [toOutbound] at isOk
  split at isOk <;> cases isOk
  rfl

theorem toTag_conn {tag : String}
    (isOk : router.toTag tag given = .ok (.outbound outbound conn)) : conn = given := by
  rw [toTag] at isOk
  split at isOk
  · cases isOk
  · exact toOutbound_conn isOk

theorem dispatch_conn {matched : Matched}
    (isOk : router.dispatch matched = .ok (.outbound outbound conn)) :
    conn = attach (.raw matched.state.input) matched.state.buffers := by
  rw [dispatch] at isOk
  split at isOk
  · exact toOutbound_conn isOk
  split at isOk
  · exact toTag_conn isOk
  · exact toTag_conn isOk
  all_goals cases isOk

/-- The connection that is handed to the outbound yields what the client sent
exactly if it does not matter whether the buffers are read from the first to the
last or from the last to the first. -/
theorem routeConnection_transparent_iff {metadata : Context} {reads : List StreamRead}
    {outbound : Outbound} {conn : Conn}
    (isRouted : router.routeConnection metadata reads = .ok (.outbound outbound conn)) :
    conn.stream = streamData reads ↔
      (router.sniffedBuffers metadata reads).reverse.flatten =
        (router.sniffedBuffers metadata reads).flatten := by
  have isConn : conn = attach
      (.raw (router.matchRule { metadata with network := "tcp" } (.stream reads)).state.input)
      (router.sniffedBuffers metadata reads) := by
    rw [routeConnection] at isRouted
    split at isRouted
    · split_ifs at isRouted
      split at isRouted
      all_goals cases isRouted
    · split at isRouted
      · cases isRouted
      split at isRouted
      · cases isRouted
      dsimp only at isRouted
      split at isRouted
      · cases isRouted
      · exact dispatch_conn isRouted
  have isKept : Kept (streamData reads)
      (router.matchRule { metadata with network := "tcp" } (.stream reads)).state :=
    matchRule_kept _ reads
  rcases isKept with ⟨_, isRest, isData⟩
  rw [isConn, stream_attach, isRest, ← isData]
  exact append_left_inj _

end

def rejectAll : AnySniffer := fun sniffed _ => { err := some invalid, metadata := sniffed }

def sniffRejected (name : String) : Rule where
  accepts _ := true
  action := .sniff { snifferNames := [name], streamSniffers := [rejectAll] }

/-- What is read for the sniffer is put before the rest. -/
theorem routeConnection_transparent_sniffed :
    let router := sample [sniffRejected "http"]
    let input : List StreamRead := [.read [1] none, .read [2] none]
    let conn : Conn := .cached (.raw (.stream [.read [2] none])) [1]
    router.routeConnection {} input = .ok (.outbound router.defaultOutbound conn) ∧
      (conn.stream = streamData input ↔
        (router.sniffedBuffers {} input).reverse.flatten =
          (router.sniffedBuffers {} input).flatten) :=
  ⟨rfl, routeConnection_transparent_iff rfl⟩

def sniffTwice : List Rule := [sniffRejected "http", sniffRejected "tls"]

/-- The client sends 1 and then 2, and the outbound reads 2 first. -/
theorem sniffTwice_swaps :
    ∃ conn, (sample sniffTwice).routeConnection {} [.read [1] none, .read [2] none] =
        .ok (.outbound (sample sniffTwice).defaultOutbound conn) ∧
      streamData [.read [1] none, .read [2] none] = [1, 2] ∧ conn.stream = [2, 1] :=
  ⟨.cached (.cached (.raw (.stream [])) [1]) [2], rfl, rfl, rfl⟩

end SingBox.Routing
