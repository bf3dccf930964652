namespace Locasta.Benchkv

/-! The requests of the key-value benchmark and the shard of one daemon. -/

inductive Request where
  | aggPut (rank key value : Nat)
  | aggGet (rank key : Nat)

inductive Response where
  | aggPutOk
  | aggGetOk (value : Nat)
  | aggGetNotFound

namespace Request

def rank : Request → Nat
  | .aggPut rank _ _ | .aggGet rank _ => rank

def key : Request → Nat
  | .aggPut _ key _ | .aggGet _ key => key

end Request

structure ShardedStore where
  data : List Nat
  numDaemons : Nat
  daemonId : Nat

namespace ShardedStore

def new (keyRange numDaemons daemonId : Nat) : ShardedStore where
  data := List.replicate ((keyRange + numDaemons - 1) / numDaemons) 0
  numDaemons
  daemonId

def ownerOf (key numDaemons : Nat) : Nat := key % numDaemons

def localIndex (store : ShardedStore) (key : Nat) : Nat := key / store.numDaemons

def get (store : ShardedStore) (key : Nat) : Option Nat := store.data[store.localIndex key]?

def put (store : ShardedStore) (key value : Nat) : ShardedStore :=
  { store with data := store.data.set (store.localIndex key) value }

end ShardedStore

def handleLocal (store : ShardedStore) : Request → ShardedStore × Response
  | .aggPut _ key value => (store.put key value, .aggPutOk)
  | .aggGet _ key =>
    match store.get key with
    | some value => (store, .aggGetOk value)
    | none => (store, .aggGetNotFound)

end Locasta.Benchkv
