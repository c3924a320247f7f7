import Dialback.Json.Messages
import Dialback.Proofs.Json.Form
import Dialback.Proofs.Uuid.RoundTrip
import Dialback.Proofs.Wire.Form

/-!
Every value that travels between client and runtime is read back from its text, so no two of them
share one. Null stands for an absent context and for the unit that is a ping or a pong; a context
itself is a record and never null.
-/
namespace Dialback

open Json JsonForm LawfulJson

/-! Identifiers and durations. -/

instance : LawfulJson Uuid where
  plain u := .text u.render
  read_write u := u.parse?_render

instance : LawfulJson PartitionKey where
  plain k := plain k.text
  read_write _ := rfl

instance : LawfulJson Duration where
  plain d := .record _ (by simp [Plain.number])
  read_write d := by
    refine bind_closedFields (by rfl) (by decide) ?_
    simp only [List.map_cons, List.map_nil, required, Option.bind_some, Option.bind_eq_bind,
      read_long d.seconds_lt, read_word d.subsecond_lt, UInt64.toNat_ofNat_of_lt' d.seconds_lt,
      UInt32.toNat_ofNat_of_lt' d.subsecond_lt, d.ofParts_seconds_subsecond]

/-! Records. -/

instance : LawfulJson Version where
  plain v := .record _ (by simp [plain])
  read_write v := bind_fields (by rfl) (by decide) (by simp)

instance : LawfulJson Failure where
  plain f := .record _ (by simp [plain])
  read_write f := bind_fields (by rfl) (by decide) (by simp)

instance : LawfulJson ExecutionContext where
  plain c := .record _ (by simp [plain])
  read_write c := bind_fields (by rfl) (by decide) (by simp)

instance : LawfulJson ArgumentsContext where
  plain c := .record _ (by simp [plain])
  read_write c := bind_fields (by rfl) (by decide) (by simp)

instance : LawfulJson CallContext where
  plain c := .record _ (by simp [plain])
  read_write c := bind_fields (by rfl) (by decide) (by simp)

instance : LawfulJson (Option ArgumentsContext) := lawful_option nofun

instance : LawfulJson (Option CallContext) := lawful_option nofun

section Payloads

variable {α γ θ ρ : Type} [JsonForm α] [JsonForm γ] [JsonForm θ] [JsonForm ρ] [LawfulJson α]
  [LawfulJson γ] [LawfulJson θ] [LawfulJson ρ]

instance : LawfulJson (ConnectArguments α) where
  plain a := .record _ (by simp [plain])
  read_write a := bind_fields (by rfl) (by decide) (by simp)

instance : LawfulJson (Request θ) where
  plain q := .record _ (by simp [plain])
  read_write q := bind_fields (by rfl) (by decide) (by simp)

instance : LawfulJson (Response ρ) where
  plain r := .record _ (by simp [plain])
  read_write r := bind_fields (by rfl) (by decide) (by simp)

/-! Choices. -/

instance : LawfulJson (ConnectResponse γ) where
  plain
    | .accepted payload => .record _ (by simp [plain])
    | .refused failure => .record _ (by simp [plain])
  read_write
    | .accepted payload => bind_variant (by simp [read_write])
    | .refused failure => bind_variant (by simp [read_write])

instance : LawfulJson (ClientMessage α ρ) where
  plain
    | .arguments a => .record _ (by simp [plain])
    | .pong => .record _ (by simp [Plain.null])
    | .response r => .record _ (by simp [plain])
  read_write
    | .arguments a => bind_variant (by simp [read_write])
    | .pong => bind_variant (by simp)
    | .response r => bind_variant (by simp [read_write])

instance : LawfulJson (ServerMessage γ θ) where
  plain
    | .connectResponse r => .record _ (by simp [plain])
    | .ping => .record _ (by simp [Plain.null])
    | .request q => .record _ (by simp [plain])
  read_write
    | .connectResponse r => bind_variant (by simp [read_write])
    | .ping => bind_variant (by simp)
    | .request q => bind_variant (by simp [read_write])

end Payloads

/-! The handshake. -/

instance : LawfulJson Handshake.Request where
  plain q := .record _ (by simp [plain])
  read_write q := bind_fields (by rfl) (by decide) (by simp)

instance : LawfulJson Handshake.Result where
  plain r := .record _ (by simp [plain])
  read_write r := bind_fields (by rfl) (by decide) (by simp)

instance : LawfulJson Handshake.Response where
  plain
    | .accepted result => .record _ (by simp [plain])
    | .refused failure => .record _ (by simp [plain])
  read_write
    | .accepted result => bind_variant (by simp [read_write])
    | .refused failure => bind_variant (by simp [read_write])

/-! All that travels. -/

/-- The text is one of JSON for the form of the value, and what was written is read back, so the
text tells which value it was written for. -/
structure RoundTrips (α : Type) [JsonForm α] : Prop where
  written (a : α) : Json.parse? (print a) = some (write a)
  back (a : α) : parse (print a) = some a
  distinct {a b : α} (same : print a = print b) : a = b

theorem RoundTrips.of_lawful {α : Type} [JsonForm α] [LawfulJson α] : RoundTrips α where
  written := parse?_print
  back := parse_print
  distinct := print_injective

/-- The types that travel, with texts for payloads. A ping and a pong of their own are units, and
the contexts of a request and of its response are of one type. -/
structure MessagesRoundTrip : Prop where
  identifier : RoundTrips Uuid
  partition : RoundTrips PartitionKey
  version : RoundTrips Version
  failure : RoundTrips Failure
  execution : RoundTrips ExecutionContext
  argumentsContext : RoundTrips ArgumentsContext
  callContext : RoundTrips CallContext
  keepAlive : RoundTrips Unit
  arguments : RoundTrips (ConnectArguments String)
  connectResponse : RoundTrips (ConnectResponse String)
  request : RoundTrips (Request String)
  response : RoundTrips (Response String)
  client : RoundTrips (ClientMessage String String)
  server : RoundTrips (ServerMessage String String)
  handshakeRequest : RoundTrips Handshake.Request
  handshakeResult : RoundTrips Handshake.Result
  handshakeResponse : RoundTrips Handshake.Response
  /-- No context is read where none was written. -/
  argumentsAlone (payload : String) :
    parse (print (ConnectArguments.mk none payload)) = some (ConnectArguments.mk none payload)
  responseAlone (payload : String) :
    parse (print (Response.mk none payload)) = some (Response.mk none payload)

theorem messages_read_back : MessagesRoundTrip where
  identifier := .of_lawful
  partition := .of_lawful
  version := .of_lawful
  failure := .of_lawful
  execution := .of_lawful
  argumentsContext := .of_lawful
  callContext := .of_lawful
  keepAlive := .of_lawful
  arguments := .of_lawful
  connectResponse := .of_lawful
  request := .of_lawful
  response := .of_lawful
  client := .of_lawful
  server := .of_lawful
  handshakeRequest := .of_lawful
  handshakeResult := .of_lawful
  handshakeResponse := .of_lawful
  argumentsAlone payload := parse_print (ConnectArguments.mk none payload)
  responseAlone payload := parse_print (Response.mk none payload)

/-- Texts are told apart within one type only: an absent context is written as a ping is. -/
example : print (none : Option CallContext) = print () := rfl

end Dialback
