import SecureServices.Library.Agree
import SecureServices.Ec.Shims

namespace SecureServices
namespace Ec

open Library Ffa

/-!
# What the services can see of a relay

The transport uses a port only through its two operations, the relay uses the
transport only through these, and the services use the relay only through
requests of a few bytes.  So if two ports agree then the relays over them do,
and if two relays agree on short requests then the services over them do.
-/

/-! ## Ports -/

/-- The two ports return the same bytes and take the same bytes. -/
structure PortsAgree {U V : Type} [EmbeddedIo U] [EmbeddedIo V] (Related : U -> V -> Prop) : Prop where
  readExact : forall {left right}, Related left right ->
    Agree Related (EmbeddedIo.readExact left) (EmbeddedIo.readExact right)
  writeAll : forall {left right}, Related left right -> forall packet,
    Agree Related (EmbeddedIo.writeAll left packet) (EmbeddedIo.writeAll right packet)

/-- The longest body that a service sends, that of the request to set a
thermal variable. -/
abbrev longestBody : Nat := Thermal.setVariableRequestSize

/-- The two relays give the same answers to requests of the services. -/
structure RelaysAgree {R S : Type} [Relay R] [Relay S] (Related : R -> S -> Prop) : Prop where
  invoke : forall {Value : Type} {left right}, Related left right ->
    forall serviceId messageId body, body.length ≤ longestBody ->
    forall parseResponse : OdpResponse -> Except EcRelayError Value,
      Agree Related (Relay.invoke left (buildOdpHeader true serviceId messageId) body parseResponse)
        (Relay.invoke right (buildOdpHeader true serviceId messageId) body parseResponse)

theorem RelaysAgree.comp {R S T : Type} [Relay R] [Relay S] [Relay T] {Related : R -> S -> Prop}
    {Further : S -> T -> Prop} (early : RelaysAgree Related) (late : RelaysAgree Further) :
    RelaysAgree (Relation.Comp Related Further) where
  invoke := by
    rintro Value left right ⟨middle, first, second⟩ serviceId messageId body short parseResponse
    exact (early.invoke first serviceId messageId body short parseResponse).comp
      (late.invoke second serviceId messageId body short parseResponse)

/-! ## From ports to relays -/

namespace PortsAgree

variable {U V : Type} [EmbeddedIo U] [EmbeddedIo V] {Related : U -> V -> Prop}

/-- The transports over the ports. -/
def Transports (Related : U -> V -> Prop) (left : MctpSerialTransport U) (right : MctpSerialTransport V) :
    Prop :=
  Related left.uart right.uart

theorem recvLoop (ports : PortsAgree Related) {left : U} {right : V} (related : Related left right)
    (room : Nat) (filled : List U8) :
    Agree Related (MctpSerialTransport.recvLoop room filled left)
      (MctpSerialTransport.recvLoop room filled right) := by
  induction room generalizing left right filled with
  | zero => exact ⟨rfl, related⟩
  | succ room inductionHypothesis =>
      rcases (ports.readExact related).split with ⟨read, first, second, here, there, kept⟩
      rw [MctpSerialTransport.recvLoop, MctpSerialTransport.recvLoop, here, there]
      cases read with
      | error fault => exact ⟨rfl, kept⟩
      | ok byte =>
          dsimp only
          split
          · exact ⟨rfl, kept⟩
          · exact inductionHypothesis kept (filled ++ [byte])

theorem recvFramedPacket (ports : PortsAgree Related) {left : MctpSerialTransport U}
    {right : MctpSerialTransport V} (related : Transports Related left right) (capacity : Nat) :
    Agree (Transports Related) (OdpTransport.recvFramedPacket left capacity)
      (OdpTransport.recvFramedPacket right capacity) := by
  rcases (ports.recvLoop related capacity []).split with ⟨packet, first, second, here, there, kept⟩
  simp only [OdpTransport.recvFramedPacket, MctpSerialTransport.recvFramedPacket, here, there]
  exact ⟨rfl, kept⟩

theorem sendPacket (ports : PortsAgree Related) {left : MctpSerialTransport U}
    {right : MctpSerialTransport V} (related : Transports Related left right) (packet : List U8) :
    Agree (Transports Related) (OdpTransport.sendPacket left packet)
      (OdpTransport.sendPacket right packet) := by
  rcases (ports.writeAll related packet).split with ⟨written, first, second, here, there, kept⟩
  simp only [OdpTransport.sendPacket, MctpSerialTransport.sendPacket, here, there]
  cases written <;> exact ⟨rfl, kept⟩

variable {mctp : MctpRs}

theorem sendPackets (ports : PortsAgree Related) (packets : List (Except MctpPacketError (List U8)))
    {left : MctpSerialTransport U} {right : MctpSerialTransport V} (related : Transports Related left right) :
    Agree (Transports Related) (EcRelay.sendPackets left packets) (EcRelay.sendPackets right packets) := by
  induction packets generalizing left right with
  | nil => exact ⟨rfl, related⟩
  | cons packet rest inductionHypothesis =>
      cases packet with
      | error reason => exact ⟨rfl, related⟩
      | ok packet =>
          rcases (ports.sendPacket related packet).split with ⟨sent, first, second, here, there, kept⟩
          rw [EcRelay.sendPackets, EcRelay.sendPackets, here, there]
          cases sent with
          | error reason => exact ⟨rfl, kept⟩
          | ok _ => exact inductionHypothesis kept

/-- The relays over the ports. -/
def Relays (mctp : MctpRs) (Related : U -> V -> Prop) (left : EcRelay mctp (MctpSerialTransport U))
    (right : EcRelay mctp (MctpSerialTransport V)) : Prop :=
  Transports Related left.transport right.transport

/-- Relays over ports that agree agree, on requests of any length. -/
theorem relays (ports : PortsAgree Related) : RelaysAgree (Relays mctp Related) where
  invoke := by
    intro Value left right related serviceId messageId body _ parseResponse
    change Agree _ (EcRelay.invoke left _ body parseResponse) (EcRelay.invoke right _ body parseResponse)
    unfold EcRelay.invoke
    cases mctp.serializePacket (serialReplyContext mctp.spEid mctp.ecEid) odpMessageType
        (buildOdpHeader true serviceId messageId) body with
    | error reason => exact ⟨rfl, related⟩
    | ok packets =>
        rcases (ports.sendPackets packets related).split with ⟨sent, first, second, here, there, kept⟩
        simp only [here, there]
        cases sent with
        | error reason => exact ⟨rfl, kept⟩
        | ok _ =>
            rcases (ports.recvFramedPacket kept 256).split with ⟨received, third, fourth, at_first, at_second, still⟩
            simp only [at_first, at_second]
            cases received with
            | error reason => exact ⟨rfl, still⟩
            | ok packet => exact ⟨rfl, still⟩

end PortsAgree

/-! ## From relays to services -/

namespace RelaysAgree

section Replies

variable {R S : Type} {Related : R -> S -> Prop} {left : R} {right : S}

theorem respondScalar (message : MsgSendDirectReq2) {first : U32 × R} {second : U32 × S}
    (agree : Agree Related first second) :
    Agree Related (Ec.respondScalar message first) (Ec.respondScalar message second) :=
  agree.map (fun value => Except.ok (MsgSendDirectResp2.fromReqWithPayload message (scalarPayload value)))

theorem unwrapOr {Value : Type} (default : Value) {first : Except ShimError Value × R}
    {second : Except ShimError Value × S} (agree : Agree Related first second) :
    Agree Related (Ec.unwrapOr default first) (Ec.unwrapOr default second) :=
  agree.map (fun result => result.toOption.getD default)

theorem statusOf {first : Except ShimError Unit × R} {second : Except ShimError Unit × S}
    (agree : Agree Related first second) : Agree Related (Ec.statusOf first) (Ec.statusOf second) :=
  agree.map setterStatus

theorem withRequest (size : Nat) (related : Related left right) (payload : DirectMessagePayload)
    {first : Bytes size -> U32 × R} {second : Bytes size -> U32 × S}
    (agree : forall body, Agree Related (first body) (second body)) :
    Agree Related (Ec.withRequest size left payload first) (Ec.withRequest size right payload second) := by
  unfold Ec.withRequest
  cases parseFfaRequest size payload with
  | none => exact ⟨rfl, related⟩
  | some body => exact agree body

theorem conclude {Value : Type} (message : MsgSendDirectReq2) (text : String)
    (intoPayload : Value -> DirectMessagePayload) {first : Except ShimError Value × R}
    {second : Except ShimError Value × S} (agree : Agree Related first second) :
    Agree Related (Battery.conclude message text intoPayload first)
      (Battery.conclude message text intoPayload second) := by
  rcases agree.split with ⟨result, _, _, rfl, rfl, kept⟩
  cases result <;> exact ⟨rfl, kept⟩

end Replies

variable {R S : Type} [Relay R] [Relay S] {Related : R -> S -> Prop} {left : R} {right : S}

theorem requestWithResponseId {Value : Type} (relays : RelaysAgree Related) (related : Related left right)
    (serviceId : U8) (messageId expected : U16) {body : List U8} (short : body.length ≤ longestBody)
    (parseBody : List U8 -> Except EcRelayError Value) :
    Agree Related (Ec.requestWithResponseId left serviceId messageId expected body parseBody)
      (Ec.requestWithResponseId right serviceId messageId expected body parseBody) :=
  (relays.invoke related serviceId messageId body short (checkEnvelope serviceId expected parseBody)).map
    (fun result => result.mapError ShimError.relay)

/-- A body of one byte. -/
theorem short_singleton (byte : U8) : [byte].length ≤ longestBody := Nat.le_add_left 1 22

theorem short_nil : ([] : List U8).length ≤ longestBody := Nat.zero_le 23

theorem battery (relays : RelaysAgree Related) (related : Related left right) (message : MsgSendDirectReq2) :
    Agree Related (Battery.ffaMsgSendDirectReq2 left message) (Battery.ffaMsgSendDirectReq2 right message) := by
  unfold Battery.ffaMsgSendDirectReq2
  dsimp only
  split
  · exact ⟨rfl, related⟩
  · exact conclude message _ _ (relays.requestWithResponseId related _ _ _ (short_singleton _) _)
  · exact conclude message _ _ (relays.requestWithResponseId related _ _ _ (short_singleton _) _)
  · refine conclude message _ _ (relays.requestWithResponseId related _ _ _ ?_ _)
    rw [List.length_cons, length_leBytes]
    decide

theorem thermal (relays : RelaysAgree Related) (related : Related left right) (message : MsgSendDirectReq2) :
    Agree Related (Thermal.ffaMsgSendDirectReq2 left message) (Thermal.ffaMsgSendDirectReq2 right message) := by
  have sent : forall {Value : Type} {size : Nat} (body : Bytes size), size ≤ longestBody ->
      forall messageId (parseBody : List U8 -> Except EcRelayError Value),
      Agree Related (request left Thermal.serviceId messageId body.val parseBody)
        (request right Thermal.serviceId messageId body.val parseBody) := by
    intro Value size body short messageId parseBody
    exact relays.requestWithResponseId related _ _ _ (body.property.trans_le short) parseBody
  unfold Thermal.ffaMsgSendDirectReq2
  split
  · exact ⟨rfl, related⟩
  · exact respondScalar message
      (unwrapOr _ (relays.requestWithResponseId related _ _ _ (short_singleton _) _))
  · exact respondScalar message (withRequest _ related _ (fun body => statusOf (sent body (by decide) _ _)))
  · have read := unwrapOr (localErrorSentinel, localErrorSentinel, localErrorSentinel)
      (relays.requestWithResponseId related Thermal.serviceId Thermal.ThermalCommand.getThrs.toU16
        Thermal.ThermalCommand.getThrs.toU16 (short_singleton (message.payload.u8At 1))
        Thermal.parseThreshold)
    exact read.map (fun threshold => Except.ok (MsgSendDirectResp2.fromReqWithPayload message
      (Thermal.thresholdPayload threshold.1 threshold.2.1 threshold.2.2)))
  · exact respondScalar message (withRequest _ related _ (fun body => statusOf (sent body (by decide) _ _)))
  · refine respondScalar message (withRequest _ related _ (fun body => ?_))
    split
    · exact unwrapOr _ (sent body (by decide) _ _)
    · exact ⟨rfl, related⟩
  · refine respondScalar message (withRequest _ related _ (fun body => ?_))
    split
    · exact statusOf (sent body (by decide) _ _)
    · exact ⟨rfl, related⟩

theorem timeAlarm (relays : RelaysAgree Related) (related : Related left right) (message : MsgSendDirectReq2) :
    Agree Related (TimeAlarm.ffaMsgSendDirectReq2 left message)
      (TimeAlarm.ffaMsgSendDirectReq2 right message) := by
  have sent : forall {Value : Type} {size : Nat} (body : Bytes size), size ≤ longestBody ->
      forall messageId expected (parseBody : List U8 -> Except EcRelayError Value),
      Agree Related (Ec.requestWithResponseId left TimeAlarm.serviceId messageId expected body.val parseBody)
        (Ec.requestWithResponseId right TimeAlarm.serviceId messageId expected body.val parseBody) := by
    intro Value size body short messageId expected parseBody
    exact relays.requestWithResponseId related _ _ _ (body.property.trans_le short) parseBody
  unfold TimeAlarm.ffaMsgSendDirectReq2
  split
  · exact ⟨rfl, related⟩
  · exact respondScalar message (unwrapOr _ (relays.requestWithResponseId related _ _ _ (by decide) _))
  · have read := unwrapOr TimeAlarm.invalidTimestamp
      (relays.requestWithResponseId related TimeAlarm.serviceId TimeAlarm.TimeAlarmCommand.getRealTime.toU16
        TimeAlarm.TimeAlarmCommand.getRealTime.toU16 short_nil
        (takeExactArray TimeAlarm.acpiTimestampLen))
    exact read.map (fun timestamp => Except.ok (MsgSendDirectResp2.fromReqWithPayload message
      (DirectMessagePayload.fromIter timestamp.val (by rw [timestamp.property]; decide))))
  · exact respondScalar message (withRequest _ related _ (fun body => unwrapOr _ (sent body (by decide) _ _ _)))
  · exact respondScalar message (withRequest _ related _ (fun body => statusOf (sent body (by decide) _ _ _)))
  · exact respondScalar message (withRequest _ related _ (fun body => unwrapOr _ (sent body (by decide) _ _ _)))
  · exact respondScalar message (withRequest _ related _ (fun body => unwrapOr _ (sent body (by decide) _ _ _)))

end RelaysAgree

end Ec
end SecureServices
