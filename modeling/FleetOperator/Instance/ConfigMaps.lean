import FleetOperator.Dict

/-!
# The config maps of an instance

An Argo CD instance is configured by seven config maps. `ConfigMaps α` holds something of type `α`
for each of them: its data, its document, or its name.
-/

namespace FleetOperator

/-- Something for each config map of an instance. -/
structure ConfigMaps (α : Type) where
  general : α
  imageUpdater : α
  imageUpdaterSsh : α
  notifications : α
  rbac : α
  sshKnownHosts : α
  tlsCerts : α
deriving DecidableEq, Repr, Inhabited

namespace ConfigMaps

variable {α β γ : Type}

/-- The same thing for every config map. -/
def all (value : α) : ConfigMaps α := ⟨value, value, value, value, value, value, value⟩

/-- The names of the config maps. -/
def names : ConfigMaps String where
  general := "argocd-cm"
  imageUpdater := "argocd-image-updater-config"
  imageUpdaterSsh := "argocd-image-updater-ssh-config"
  notifications := "argocd-notifications-cm"
  rbac := "argocd-rbac-cm"
  sshKnownHosts := "argocd-ssh-known-hosts-cm"
  tlsCerts := "argocd-tls-certs-cm"

/-- A function of two arguments applied for every config map. -/
def zipWith (f : α → β → γ) (a : ConfigMaps α) (b : ConfigMaps β) : ConfigMaps γ where
  general := f a.general b.general
  imageUpdater := f a.imageUpdater b.imageUpdater
  imageUpdaterSsh := f a.imageUpdaterSsh b.imageUpdaterSsh
  notifications := f a.notifications b.notifications
  rbac := f a.rbac b.rbac
  sshKnownHosts := f a.sshKnownHosts b.sshKnownHosts
  tlsCerts := f a.tlsCerts b.tlsCerts

/-- The values of computations that may fail, in order, or the first failure. -/
def sequence {ε : Type} (c : ConfigMaps (Except ε α)) : Except ε (ConfigMaps α) := do
  return {
    general := ← c.general
    imageUpdater := ← c.imageUpdater
    imageUpdaterSsh := ← c.imageUpdaterSsh
    notifications := ← c.notifications
    rbac := ← c.rbac
    sshKnownHosts := ← c.sshKnownHosts
    tlsCerts := ← c.tlsCerts }

end ConfigMaps

end FleetOperator
