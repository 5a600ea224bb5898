import Mathlib.Data.Nat.Basic

/-!
# Bacnet.Text

The tables of `bactext.c` that name the numbers a reply carries, with their lookup
functions. A lookup always yields a name: a number without an entry has the table's
default.
-/

namespace Bacnet

def ashraeReservedString : String := "Reserved for Use by ASHRAE"

def vendorProprietaryString : String := "Vendor Proprietary Value"

/-- `indtext_by_index_default`: the first entry with the index, else the default. -/
def indtextByIndexDefault (dataList : List (UInt32 × String)) (index : UInt32)
    (defaultString : String) : String :=
  ((dataList.find? fun e => e.1 == index).map Prod.snd).getD defaultString

def indtextByIndexSplitDefault (dataList : List (UInt32 × String)) (index splitIndex : UInt32)
    (beforeSplitDefaultName defaultName : String) : String :=
  if index < splitIndex then indtextByIndexDefault dataList index beforeSplitDefaultName
  else indtextByIndexDefault dataList index defaultName

def bacnetApplicationTagNames : List (UInt32 × String) :=
  [(0, "Null"), (1, "Boolean"), (2, "Unsigned Int"), (3, "Signed Int"), (4, "Real"), (5, "Double"),
    (6, "Octet String"), (7, "Character String"), (8, "Bit String"), (9, "Enumerated"),
    (10, "Date"), (11, "Time"), (12, "Object ID"), (13, "Reserved 1"), (14, "Reserved 2"),
    (15, "Reserved 3")]

def bactextApplicationTagName (index : UInt32) : String :=
  indtextByIndexDefault bacnetApplicationTagNames index ashraeReservedString

def bacnetObjectTypeNames : List (UInt32 × String) :=
  [(0, "analog-input"), (1, "analog-output"), (2, "analog-value"), (3, "binary-input"),
    (4, "binary-output"), (5, "binary-value"), (6, "calendar"), (7, "command"), (8, "device"),
    (9, "event-enrollment"), (10, "file"), (11, "group"), (12, "loop"), (13, "multi-state-input"),
    (14, "multi-state-output"), (15, "notification-class"), (16, "program"), (17, "schedule"),
    (18, "averaging"), (19, "multi-state-value"), (20, "trend-log"), (21, "life-safety-point"),
    (22, "life-safety-zone"), (23, "accumulator"), (24, "pulse-converter"), (25, "event-log"),
    (26, "global-group"), (27, "trend-log-multiple"), (28, "load-control"), (29, "structured-view"),
    (30, "access-door"), (54, "lighting-output"), (32, "access-credential"), (33, "access-point"),
    (34, "access-rights"), (35, "access-user"), (36, "access-zone"), (37, "credential-data-input"),
    (38, "network-security"), (39, "bitstring-value"), (40, "characterstring-value"),
    (41, "date-pattern-value"), (42, "date-value"), (43, "datetime-pattern-value"),
    (44, "datetime-value"), (45, "integer-value"), (46, "large-analog-value"),
    (47, "octetstring-value"), (48, "positive-integer-value"), (49, "time-pattern-value"),
    (50, "time-value"), (51, "notification-forwarder"), (52, "alert-enrollment"), (53, "channel"),
    (54, "lighting-output"), (55, "binary-lighting-output"), (56, "network-port"),
    (57, "elevator-group"), (58, "escalator"), (59, "lift"), (60, "staging")]

def bactextObjectTypeName (index : UInt32) : String :=
  indtextByIndexSplitDefault bacnetObjectTypeNames index 128 ashraeReservedString
    vendorProprietaryString

def bacnetEngineeringUnitNames : List (UInt32 × String) :=
  [(0, "square-meters"), (1, "square-feet"), (2, "milliamperes"), (3, "amperes"), (4, "ohms"),
    (5, "volts"), (6, "kilovolts"), (7, "megavolts"), (8, "volt-amperes"), (9, "kilovolt-amperes"),
    (10, "megavolt-amperes"), (11, "volt-amperes-reactive"), (12, "kilovolt-amperes-reactive"),
    (13, "megavolt-amperes-reactive"), (14, "degrees-phase"), (15, "power-factor"), (16, "joules"),
    (17, "kilojoules"), (18, "watt-hours"), (19, "kilowatt-hours"), (20, "btus"), (21, "therms"),
    (22, "ton-hours"), (23, "joules-per-kilogram-dry-air"), (24, "btus-per-pound-dry-air"),
    (25, "cycles-per-hour"), (26, "cycles-per-minute"), (27, "hertz"),
    (28, "grams-of-water-per-kilogram-dry-air"), (29, "percent-relative-humidity"),
    (30, "millimeters"), (31, "meters"), (32, "inches"), (33, "feet"),
    (34, "watts-per-square-foot"), (35, "watts-per-square-meter"), (36, "lumens"), (37, "luxes"),
    (38, "foot-candles"), (39, "kilograms"), (40, "pounds-mass"), (41, "tons"),
    (42, "kilograms-per-second"), (43, "kilograms-per-minute"), (44, "kilograms-per-hour"),
    (45, "pounds-mass-per-minute"), (46, "pounds-mass-per-hour"), (47, "watts"), (48, "kilowatts"),
    (49, "megawatts"), (50, "btus-per-hour"), (51, "horsepower"), (52, "tons-refrigeration"),
    (53, "pascals"), (54, "kilopascals"), (55, "bars"), (56, "pounds-force-per-square-inch"),
    (57, "centimeters-of-water"), (58, "inches-of-water"), (59, "millimeters-of-mercury"),
    (60, "centimeters-of-mercury"), (61, "inches-of-mercury"), (62, "degrees-celsius"),
    (63, "degrees-kelvin"), (64, "degrees-fahrenheit"), (65, "degree-days-celsius"),
    (66, "degree-days-fahrenheit"), (67, "years"), (68, "months"), (69, "weeks"), (70, "days"),
    (71, "hours"), (72, "minutes"), (73, "seconds"), (74, "meters-per-second"),
    (75, "kilometers-per-hour"), (76, "feet-per-second"), (77, "feet-per-minute"),
    (78, "miles-per-hour"), (79, "cubic-feet"), (80, "cubic-meters"), (81, "imperial-gallons"),
    (82, "liters"), (83, "us-gallons"), (84, "cubic-feet-per-minute"),
    (85, "cubic-meters-per-second"), (86, "imperial-gallons-per-minute"), (87, "liters-per-second"),
    (88, "liters-per-minute"), (89, "us-gallons-per-minute"), (90, "degrees-angular"),
    (91, "degrees-celsius-per-hour"), (92, "degrees-celsius-per-minute"),
    (93, "degrees-fahrenheit-per-hour"), (94, "degrees-fahrenheit-per-minute"), (95, "no-units"),
    (96, "parts-per-million"), (97, "parts-per-billion"), (98, "percent"),
    (99, "percent-per-second"), (100, "per-minute"), (101, "per-second"),
    (102, "psi-per-degree-fahrenheit"), (103, "radians"), (104, "revolutions-per-minute"),
    (105, "currency1"), (106, "currency2"), (107, "currency3"), (108, "currency4"),
    (109, "currency5"), (110, "currency6"), (111, "currency7"), (112, "currency8"),
    (113, "currency9"), (114, "currency10"), (115, "square-inches"), (116, "square-centimeters"),
    (117, "btus_per-pound"), (118, "centimeters"), (119, "pounds-mass-per-second"),
    (120, "delta-degrees-fahrenheit"), (121, "delta-degrees-kelvin"), (122, "kilohms"),
    (123, "megohms"), (124, "millivolts"), (125, "kilojoules-per-kilogram"), (126, "megajoules"),
    (127, "joules-per-degree-kelvin"), (128, "joules-per-kilogram-degree-kelvin"),
    (129, "kilohertz"), (130, "megahertz"), (131, "per-hour"), (132, "milliwatts"),
    (133, "hectopascals"), (134, "millibars"), (135, "cubic-meters-per-hour"),
    (136, "liters-per-hour"), (137, "kilowatt-hours-per-square-meter"),
    (138, "kilowatt-hours-per-square-foot"), (139, "megajoules-per-square-meter"),
    (140, "megajoules-per-square-foot"), (142, "cubic-feet-per-second"),
    (141, "watts-per-square-meter-degree-kelvin"), (143, "percent-obscuration-per-foot"),
    (144, "percent-obscuration-per-meter"), (145, "milliohms"), (146, "megawatt-hours"),
    (147, "kilo-btus"), (148, "mega-btus"), (149, "kilojoules-per-kilogram-dry-air"),
    (150, "megajoules-per-kilogram-dry-air"), (151, "kilojoules-per-degree-kelvin"),
    (152, "megajoules-per-degree-kelvin"), (153, "newton"), (154, "grams-per-second"),
    (155, "grams-per-minute"), (156, "tons-per-hour"), (157, "kilo-btus-per-hour"),
    (158, "hundredths-seconds"), (159, "milliseconds"), (160, "newton-meters"),
    (161, "millimeters-per-second"), (162, "millimeters-per-minute"), (163, "meters-per-minute"),
    (164, "meters-per-hour"), (165, "cubic-meters-per-minute"),
    (166, "meters-per-second-per-second"), (167, "amperes-per-meter"),
    (168, "amperes-per-square-meter"), (169, "ampere-square-meters"), (170, "farads"),
    (171, "henrys"), (172, "ohm-meters"), (173, "siemens"), (174, "siemens-per-meter"),
    (175, "teslas"), (176, "volts-per-degree-kelvin"), (177, "volts-per-meter"), (178, "webers"),
    (179, "candelas"), (180, "candelas-per-square-meter"), (181, "degrees-kelvin-per-hour"),
    (182, "degrees-kelvin-per-minute"), (183, "joule-seconds"), (184, "radians-per-second"),
    (185, "square-meters-per-Newton"), (186, "kilograms-per-cubic-meter"), (187, "newton-seconds"),
    (188, "newtons-per-meter"), (189, "watts-per-meter-per-degree-kelvin"), (190, "micro-siemens"),
    (191, "cubic-feet-per-hour"), (192, "us-gallons-per-hour"), (193, "kilometers"),
    (194, "micrometers"), (195, "grams"), (196, "milligrams"), (197, "milliliters"),
    (198, "milliliters-per-second"), (199, "decibels"), (200, "decibels-millivolt"),
    (201, "decibels-volt"), (202, "millisiemens"), (203, "watt-hours-reactive"),
    (204, "kilowatt-hours-reactive"), (205, "megawatt-hours-reactive"),
    (206, "millimeters-of-water"), (207, "per-mille"), (208, "grams-per-gram"),
    (209, "kilograms-per-kilogram"), (210, "grams-per-kilogram"), (211, "milligrams-per-gram"),
    (212, "milligrams-per-kilogram"), (213, "grams-per-milliliter"), (214, "grams-per-liter"),
    (215, "milligrams-per-liter"), (216, "micrograms-per-liter"), (217, "grams-per-cubic-meter"),
    (218, "milligrams-per-cubic-meter"), (219, "micrograms-per-cubic-meter"),
    (220, "nanograms-per-cubic-meter"), (221, "grams-per-cubic-centimeter"), (222, "becquerels"),
    (224, "megabecquerels"), (225, "gray"), (226, "milligray"), (227, "microgray"),
    (228, "sieverts"), (229, "millisieverts"), (230, "microsieverts"),
    (231, "microsieverts-per-hour"), (232, "decibels-a"), (233, "nephelometric-turbidity-unit"),
    (234, "pH"), (235, "grams-per-square-meter"), (236, "minutes-per-degree-kelvin"),
    (237, "ohm-meter-squared-per-meter"), (238, "ampere-seconds"), (239, "volt-ampere-hours"),
    (240, "kilovolt-ampere-hours"), (241, "megavolt-ampere-hours"),
    (242, "volt-ampere-hours-reactive"), (243, "kilovolt-ampere-hours-reactive"),
    (244, "megavolt-ampere-hours-reactive"), (245, "volt-square-hours"),
    (246, "ampere-square-hours"), (247, "joule-per-hours"), (248, "cubic-feet-per-day"),
    (249, "cubic-meters-per-day"), (250, "watt-hours-per-cubic-meter"),
    (251, "joules-per-cubic-meter"), (252, "mole-percent"), (253, "pascal-seconds"),
    (254, "million-standard-cubic-feet-per-minute"), (47808, "standard-cubic-feet-per-day"),
    (47809, "million-standard-cubic-feet-per-day"), (47810, "thousand-cubic-feet-per-day"),
    (47811, "thousand-standard-cubic-feet-per-day"), (47812, "pounds-mass-per-day"),
    (47814, "millirems"), (47815, "millirems-per-hour")]

/-- `bactext_engineering_unit_name`, with the bounds of the `UNITS_*_RANGE_MAX` values. -/
def bactextEngineeringUnitName (index : UInt32) : String :=
  if index ≤ 255 then
    indtextByIndexDefault bacnetEngineeringUnitNames index ashraeReservedString
  else if index ≤ 47807 then vendorProprietaryString
  else if index ≤ 49999 then
    indtextByIndexDefault bacnetEngineeringUnitNames index ashraeReservedString
  else if index ≤ 65535 then vendorProprietaryString
  else ashraeReservedString

def bacnetAbortReasonNames : List (UInt32 × String) :=
  [(0, "Other"), (1, "Buffer Overflow"), (2, "Invalid APDU in this State"),
    (3, "Preempted by Higher Priority Task"), (4, "Segmentation Not Supported"),
    (5, "Security Error"), (6, "Insufficient Security"), (64, "Proprietary")]

def bactextAbortReasonName (index : UInt32) : String :=
  indtextByIndexSplitDefault bacnetAbortReasonNames index 64 ashraeReservedString
    vendorProprietaryString

def bacnetErrorClassNames : List (UInt32 × String) :=
  [(0, "device"), (1, "object"), (2, "property"), (3, "resources"), (4, "security"),
    (5, "services"), (6, "vt")]

def bactextErrorClassName (index : UInt32) : String :=
  indtextByIndexSplitDefault bacnetErrorClassNames index 64 ashraeReservedString
    vendorProprietaryString

def bacnetErrorCodeNames : List (UInt32 × String) :=
  [(0, "other"), (1, "authentication-failed"), (41, "character-set-not-supported"),
    (2, "configuration-in-progress"), (47, "datatype-not-supported"), (3, "device-busy"),
    (48, "duplicate-name"), (49, "duplicate-object-id"), (4, "dynamic-creation-not-supported"),
    (5, "file-access-denied"), (6, "incompatible-security-levels"), (7, "inconsistent-parameters"),
    (8, "inconsistent-selection-criterion"), (42, "invalid-array-index"),
    (46, "invalid-configuration-data"), (9, "invalid-data-type"),
    (10, "invalid-file-access-method"), (11, "error-code-invalid-file-start-position"),
    (12, "invalid-operator-name"), (13, "invalid-parameter-data-type"), (14, "invalid-time-stamp"),
    (15, "key-generation-error"), (16, "missing-required-parameter"),
    (17, "no-objects-of-specified-type"), (18, "no-space-for-object"),
    (19, "no-space-to-add-list-element"), (20, "no-space-to-write-property"),
    (21, "no-vt-sessions-available"), (23, "object-deletion-not-permitted"),
    (24, "object-identifier-already-exists"), (25, "operational-problem"),
    (45, "optional-functionality-not-supported"), (26, "password-failure"),
    (22, "property-is-not-a-list"), (50, "property-is-not-an-array"), (27, "read-access-denied"),
    (28, "security-not-supported"), (29, "service-request-denied"), (30, "timeout"),
    (31, "unknown-object"), (32, "unknown-property"), (33, "reserved1"), (34, "unknown-vt-class"),
    (35, "unknown-vt-session"), (36, "unsupported-object-type"), (37, "value-out-of-range"),
    (38, "vt-session-already-closed"), (39, "vt-session-termination-failure"),
    (40, "write-access-denied"), (43, "cov-subscription-failed"), (44, "not-cov-property"),
    (51, "abort-buffer-overflow"), (52, "abort-invalid-apdu-in-this-state"),
    (53, "abort-preempted-by-higher-priority-task"), (54, "abort-segmentation-not-supported"),
    (55, "abort-proprietary"), (56, "abort-other"), (57, "invalid-tag"), (58, "network-down"),
    (59, "reject-buffer-overflow"), (60, "reject-inconsistent-parameters"),
    (61, "reject-invalid-parameter-data-type"), (62, "reject-invalid-tag"),
    (63, "reject-missing-required-parameter"), (64, "reject-parameter-out-of-range"),
    (65, "reject-too-many-arguments"), (66, "reject-undefined-enumeration"),
    (67, "reject-unrecognized-service"), (68, "reject-proprietary"), (69, "reject-other"),
    (70, "unknown-device"), (71, "unknown-route"), (72, "value-not-initialized"),
    (73, "invalid-event-state"), (74, "no-alarm-configured"), (75, "log-buffer-full"),
    (76, "logged-value-purged"), (77, "no-property-specified"),
    (78, "not-configured-for-triggered-logging"), (79, "unknown-subscription"),
    (80, "parameter-out-of-range"), (81, "list-element-not-found"), (82, "busy"),
    (83, "communication-disabled"), (83, "access-denied"), (84, "success"), (85, "access-denied"),
    (86, "bad-destination-address"), (87, "bad-destination-device-id"), (88, "bad-signature"),
    (89, "bad-source-address"), (90, "bad-timestamp"), (91, "cannot-use-key"),
    (92, "cannot-verify-message-id"), (93, "correct-key-revision"),
    (94, "destination-device-id-required"), (95, "duplicate-message"),
    (96, "encryption-not-configured"), (97, "encryption-required"), (98, "incorrect-key"),
    (99, "invalid-key-data"), (100, "key-update-in-progress"), (101, "malformed-message"),
    (102, "not-key-server"), (103, "security-not-configured"), (104, "source-security-required"),
    (105, "too-many-keys"), (106, "unknown-authentication-type"), (107, "unknown-key"),
    (108, "unknown-key-revision"), (109, "unknown-source-message"), (110, "not-router-to-dnet"),
    (111, "router-busy"), (112, "unknown-network-message"), (113, "message-too-long"),
    (114, "security-error"), (115, "addressing-error"), (116, "write-bdt-failed"),
    (117, "read-bdt-failed"), (118, "register-foreign-device-failed"), (119, "read-fdt-failed"),
    (120, "delete-fdt-entry-failed"), (121, "distribute-broadcast-failed"),
    (122, "unknown-file-size"), (123, "abort-apdu-too-long"),
    (124, "abort-application-exceeded-reply-time"), (125, "abort-out-of-resources"),
    (126, "abort-tsm-timeout"), (127, "abort-window-size-out-of-range"), (128, "file-full"),
    (129, "inconsistent-configuration"), (130, "inconsistent-object-type"), (131, "internal-error"),
    (132, "not-configured"), (133, "out-of-memory"), (134, "value-too-long"),
    (135, "abort-insufficient-security"), (136, "abort-security-error")]

def bactextErrorCodeName (index : UInt32) : String :=
  indtextByIndexSplitDefault bacnetErrorCodeNames index 256 ashraeReservedString
    vendorProprietaryString

def bacnetBinaryPresentValueNames : List (UInt32 × String) :=
  [(0, "inactive"), (1, "active")]

def bactextBinaryPresentValueName (index : UInt32) : String :=
  indtextByIndexDefault bacnetBinaryPresentValueNames index ashraeReservedString

end Bacnet
