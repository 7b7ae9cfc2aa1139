/-
Packets and their serialized form (`Packet.hpp`).
-/

import EternalTerminal.Base.CryptoHandler

namespace EternalTerminal

open Library

structure Packet where
  encrypted : Bool
  header : UInt8
  payload : Bytes
  deriving DecidableEq

namespace Packet

variable {signature : Signature}

def HEADER_SIZE : Nat := 2

/-- The unencrypted packet `Packet(header, payload)`. -/
def plain (header : UInt8) (payload : Bytes) : Packet :=
  { encrypted := false
    header := header
    payload := payload }

def length (packet : Packet) : Nat := HEADER_SIZE + packet.payload.length

def serialize (packet : Packet) : Bytes :=
  (if packet.encrypted then 1 else 0) :: packet.header :: packet.payload

/-- `Packet(const string& serializedPacket)`; `substr(2)` throws on a string
that is too short. -/
def deserialize : Bytes → Program signature Exn Packet
  | encrypted :: header :: payload =>
      pure { encrypted := encrypted != 0, header := header, payload := payload }
  | _ => .raise .outOfRange

def decrypt (box : SecretBox) (handler : CryptoHandler) (packet : Packet) :
    Program signature Exn (Packet × CryptoHandler) :=
  if packet.encrypted then do
    let (payload, handler) ← handler.decrypt box packet.payload
    pure ({ packet with encrypted := false, payload := payload }, handler)
  else .abort "Tried to decrypt a packet that wasn't encrypted"

def encrypt (box : SecretBox) (handler : CryptoHandler) (packet : Packet) :
    Program signature Exn (Packet × CryptoHandler) :=
  if packet.encrypted then
    .abort "Tried to encrypt a packet that was already encrypted"
  else
    let (payload, handler) := handler.encrypt box packet.payload
    pure ({ packet with encrypted := true, payload := payload }, handler)

/-- The packet that `encrypt` makes of a plain one at the handler's next nonce. -/
def sealed (box : SecretBox) (handler : CryptoHandler) (packet : Packet) : Packet :=
  { encrypted := true
    header := packet.header
    payload := box.easy handler.key handler.nonce.increment packet.payload }

@[simp] theorem serialize_length (packet : Packet) :
    packet.serialize.length = packet.length := by
  simp only [serialize, List.length_cons, length, HEADER_SIZE]
  omega

@[simp] theorem deserialize_serialize (packet : Packet) :
    (deserialize packet.serialize : Program signature Exn Packet) = .done packet := by
  cases packet with
  | mk encrypted header payload => cases encrypted <;> rfl

theorem encrypt_plain (box : SecretBox) (handler : CryptoHandler) (packet : Packet)
    (plain : packet.encrypted = false) :
    (packet.encrypt box handler : Program signature Exn _) =
      .done (packet.sealed box handler, handler.incrementNonce) := by
  simp only [encrypt, plain, Bool.false_eq_true, if_false]
  rfl

theorem encrypt_encrypted (box : SecretBox) (handler : CryptoHandler)
    (packet : Packet) (already : packet.encrypted = true) :
    (packet.encrypt box handler : Program signature Exn _) =
      .abort "Tried to encrypt a packet that was already encrypted" := by
  simp only [encrypt, already, if_true]

/-- A reader whose handler stands at the writer's nonce gets the packet back. -/
theorem decrypt_sealed (box : SecretBox) (handler : CryptoHandler) (packet : Packet)
    (plain : packet.encrypted = false) :
    ((packet.sealed box handler).decrypt box handler : Program signature Exn _) =
      .done (packet, handler.incrementNonce) := by
  cases packet with
  | mk encrypted header payload =>
      simp only at plain
      subst plain
      simp only [decrypt, sealed, if_true, CryptoHandler.decrypt_easy,
        Program.done_bind, Program.pure_eq_done]

theorem serialize_injective {left right : Packet}
    (same : left.serialize = right.serialize) : left = right := by
  have deserialized := congrArg
    (fun bytes => (deserialize bytes : Program ⟨Empty, Empty.elim⟩ Exn Packet)) same
  simp only [deserialize_serialize, Program.done.injEq] at deserialized
  exact deserialized

theorem sealed_injective {box : SecretBox} {handler : CryptoHandler}
    {left right : Packet} (leftPlain : left.encrypted = false)
    (rightPlain : right.encrypted = false)
    (same : left.sealed box handler = right.sealed box handler) : left = right := by
  have opened := congrArg (fun packet : Packet =>
    (packet.decrypt box handler : Program ⟨Empty, Empty.elim⟩ Exn _)) same
  simp only [decrypt_sealed box handler _ leftPlain,
    decrypt_sealed box handler _ rightPlain, Program.done.injEq, Prod.mk.injEq] at opened
  exact opened.1

@[simp] theorem sealed_length (box : SecretBox) (handler : CryptoHandler)
    (packet : Packet) :
    (packet.sealed box handler).length =
      packet.length + crypto_secretbox_MACBYTES := by
  simp only [length, sealed, box.easy_length]
  omega

end Packet

end EternalTerminal
