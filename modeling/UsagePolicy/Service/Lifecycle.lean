import UsagePolicy.Store.Program

/-!
# Starting and stopping

Starting the service sets the client and then the handle on the database that the client gives.
Stopping it closes the client, if there is one, and clears both. What was done is reported in the
log, and the handle alone decides who gets the database.
-/
namespace UsagePolicy
namespace Lifecycle

def start : Program Unit := do
  let settings ← Program.operation .settings
  Program.operation (.setClient (some settings.uri))
  Program.operation (.setHandle (some settings))
  Program.operation (.log ("✅ Connected to MongoDB at " ++ settings.uri ++ ", using database '" ++
    settings.name ++ "'"))

def closeClient : Program Unit := do
  if (← Program.operation .client).isSome then
    Program.operation (.log "ℹ️ MongoDB connection closed.")

def stop : Program Unit := do
  closeClient
  Program.operation (.setClient none)
  Program.operation (.setHandle none)

def database : Program DatabaseSettings := do
  match ← Program.operation .handle with
  | some settings => return settings
  | none => .failed .notConnected

end Lifecycle
end UsagePolicy
