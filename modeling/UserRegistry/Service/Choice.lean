import UserRegistry.Service.Store
import UserRegistry.Service.StandIn

/-!
# Choosing a service

The service behind each backend: its state, its operations and the state it starts from.

| here | there |
| --- | --- |
| `Backend.choose` | `create_user_service` |
| `Backend.start` | `UserServiceImpl::new`, `MockUserService::new` |
-/

namespace UserRegistry.Backend

def State : Backend → Type
  | store => Store
  | mock => Unit

def service : (b : Backend) → Service b.State
  | store => Store.service
  | mock => StandIn.service

def start : (b : Backend) → b.State
  | store => Store.empty
  | mock => ()

/-- Chooses a service, which is in its state at the start (`create_user_service`). -/
def choose (b : Backend) : Report b.State := do
  .tell (.creatingService b)
  pure b.start

end UserRegistry.Backend
