import ChangeTracking.Act

namespace ChangeTracking
variable {H : Host}

def createMailbox : Act H MailboxId :=
  modifyGet fun world =>
    (⟨world.mailboxes.size⟩, { world with mailboxes := world.mailboxes.push [] })

def post (mailbox : MailboxId) (event : ChangeEvent) : Act H Unit :=
  modify fun world =>
    { world with mailboxes := world.mailboxes.modify mailbox.index (· ++ [event]) }

/-- Empties a mailbox and hands over what was in it, the oldest event first. -/
def collect (mailbox : MailboxId) : Act H (List ChangeEvent) :=
  modifyGet fun world =>
    ((world.mailboxes[mailbox.index]?).getD [],
      { world with mailboxes := world.mailboxes.modify mailbox.index fun _ => [] })

/-- A host that has callbacks for posting: to run one is to post the event. -/
structure Posting (H : Host) where
  call : Call H
  callback : MailboxId → H.Callback
  call_callback : ∀ mailbox event, call (callback mailbox) event = post mailbox event

end ChangeTracking
