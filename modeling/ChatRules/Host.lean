import ChatRules.Fault

/-!
The chat host that rules act on. A host's answer depends on the call alone; what is asked of it is
kept as a list of calls, in order, refused ones included.
-/

namespace ChatRules

structure Host where
  post : Room → User → String → Except Fault Unit
  direct : User → User → String → Except Fault Unit
  remove : Message → Except Fault Unit
  userByHandle : String → Except Fault (Option User)
  roomByName : String → Except Fault (Option Room)
  roomById : String → Except Fault (Option Room)
  appUser : Except Fault (Option User)

inductive HostCall
  | post (room : Room) (sender : User) (text : String)
  | direct (sender recipient : User) (text : String)
  | remove (message : Message)
  | userByHandle (handle : String)
  | roomByName (name : String)
  | roomById (id : String)
  | appUser
  deriving DecidableEq, Repr

namespace Host

def isOk {α : Type} : Except Fault α → Bool
  | .ok _ => true
  | .error _ => false

def accepts (h : Host) : HostCall → Bool
  | .post room sender text => isOk (h.post room sender text)
  | .direct sender recipient text => isOk (h.direct sender recipient text)
  | .remove message => isOk (h.remove message)
  | .userByHandle handle => isOk (h.userByHandle handle)
  | .roomByName name => isOk (h.roomByName name)
  | .roomById id => isOk (h.roomById id)
  | .appUser => isOk h.appUser

end Host

structure Work (α : Type) where
  calls : List HostCall
  result : Except Fault α

namespace Work
variable {α β : Type}

def done (a : α) : Work α :=
  ⟨[], .ok a⟩

def fail (f : Fault) : Work α :=
  ⟨[], .error f⟩

def ask (call : HostCall) (answer : Except Fault α) : Work α :=
  ⟨[call], answer⟩

def andThen (w : Work α) (f : α → Work β) : Work β :=
  match w.result with
  | .ok a => ⟨w.calls ++ (f a).calls, (f a).result⟩
  | .error e => ⟨w.calls, .error e⟩

instance : Monad Work where
  pure := done
  bind := andThen

end Work

end ChatRules
