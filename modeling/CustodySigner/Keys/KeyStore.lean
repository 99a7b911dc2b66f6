import CustodySigner.Curve

set_option autoImplicit false
set_option relaxedAutoImplicit false

/-!
Key stores: what the engine asks for the private key of a path and a curve. A store may fail to find
a child key, and the child may fail to give its bytes.
-/

namespace CustodySigner

structure ChildKey where
  bytes : Except KeyStoreError Bytes

structure KeyStore where
  find : (path : String) → Curve → Except KeyStoreError ChildKey

def KeyStore.privateKey (store : KeyStore) (path : String) (curve : Curve) :
    Except SignerError Bytes :=
  ((store.find path curve).bind ChildKey.bytes).mapError SignerError.ofKeyStoreError

end CustodySigner
