import Hanbova.Messages.Handlers
import Hanbova.Payments.Views

/-! What the message handlers show of the stored messages: inbox, outbox, and a message by its
identifier. A read that iterates over the map takes the order of the iteration as an argument. -/
namespace Hanbova

open Library

namespace InMemoryProtectedMessageRepository

def findInboxByUserId (messages : Messages) (order : List Uuid) (recipientUserId : Uuid) :
    List ProtectedMessageRow :=
  newestFirst ProtectedMessageRow.createdAt
    ((messages.listed order).filter fun v => v.recipientUserId == recipientUserId)

def findOutboxByUserId (messages : Messages) (order : List Uuid) (senderUserId : Uuid) :
    List ProtectedMessageRow :=
  newestFirst ProtectedMessageRow.createdAt
    ((messages.listed order).filter fun v => v.senderUserId == senderUserId)

end InMemoryProtectedMessageRepository

open InMemoryProtectedMessageRepository (Messages)

def getInbox (messages : Messages) (order : List Uuid) (authUser : AuthUser) :
    List ProtectedMessageResponse :=
  (InMemoryProtectedMessageRepository.findInboxByUserId messages order authUser.userId).map .ofRow

def getOutbox (messages : Messages) (order : List Uuid) (authUser : AuthUser) :
    List ProtectedMessageResponse :=
  (InMemoryProtectedMessageRepository.findOutboxByUserId messages order authUser.userId).map .ofRow

def getMessageById (messages : Messages) (authUser : AuthUser) (id : Uuid) :
    Except ApiError ProtectedMessageResponse :=
  match InMemoryProtectedMessageRepository.findMessageById messages id with
  | none => .error (.notFound s!"Protected message '{id}' not found")
  | some message =>
    if message.senderUserId ≠ authUser.userId ∧ message.recipientUserId ≠ authUser.userId then
      .error (.forbidden "Forbidden: You do not have permission to view this message")
    else .ok (.ofRow message)

end Hanbova
