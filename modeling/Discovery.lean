import Discovery.Cleanup.Rehearsal
import Discovery.Json.Reader
import Discovery.Json.Writer
import Discovery.Key.Reader
import Discovery.Lookup.Direct
import Discovery.Lookup.Run
import Discovery.Record.Codec.Endpoint
import Discovery.Record.Codec.Namespace
import Discovery.Registry.Script
import Discovery.Settings.Environment
import Discovery.Proofs.Key.RoundTrip
import Discovery.Proofs.Store.Entries
import Discovery.Proofs.Store.Step
import Discovery.Proofs.Store.Recency
import Discovery.Proofs.Store.Retention
import Discovery.Proofs.Store.Inclusion
import Discovery.Proofs.Store.Departure
import Discovery.Proofs.Cache.Fetch
import Discovery.Proofs.Cache.LastWrite
import Discovery.Proofs.Cache.Glance
import Discovery.Proofs.Cache.Keeping
import Discovery.Proofs.Cleanup.Course
import Discovery.Proofs.Cleanup.Outcome
import Discovery.Proofs.Lookup.Criteria
import Discovery.Proofs.Lookup.Transparency
import Discovery.Proofs.Lookup.Convergence
import Discovery.Proofs.Lookup.Course
import Discovery.Proofs.Lookup.Resumption
import Discovery.Proofs.Lookup.Frugality
import Discovery.Proofs.Lookup.Invalidation
import Discovery.Proofs.Settings.Bounds
import Discovery.Proofs.Cache.Discipline
import Discovery.Proofs.Cache.Guard
import Discovery.Proofs.Lookup.Itinerary
import Discovery.Proofs.Lookup.Naming
import Discovery.Proofs.Cleanup.Attempts
import Discovery.Proofs.Store.Expiry
import Discovery.Proofs.Cleanup.Polling
import Discovery.Proofs.Cleanup.Warning
import Discovery.Proofs.Settings.Loading
import Discovery.Proofs.Settings.Writing
import Discovery.Proofs.Record.Values
import Discovery.Proofs.Record.Members
import Discovery.Proofs.Record.Contents
import Discovery.Proofs.Record.Forms
import Discovery.Proofs.Record.RoundTrip
import Discovery.Proofs.Store.Eviction
import Discovery.Proofs.Cache.Support
