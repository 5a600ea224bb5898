import Bacnet.Epics
import Bacnet.Lib.Bits
import Bacnet.Text

/-!
# Bacnet.Properties

The properties of each type of object (`property.c`) and their names (`bactext.c`).
-/

namespace Bacnet

open Bacnet.Lib

def defaultProperties : SpecialPropertyList where
  required := [75, 77, 79]
  optional := []

def accessCredentialProperties : SpecialPropertyList where
  required := [75, 77, 79, 323, 111, 103, 264, 303, 257, 254, 270, 263, 256]
  optional := [28, 267, 319, 244, 262, 276, 275, 281, 308, 306, 271, 364, 357, 486, 485, 168]

def accessDoorProperties : SpecialPropertyList where
  required := [75, 77, 79, 85, 111, 36, 103, 81, 87, 104, 230, 227, 229, 431]
  optional := [28, 231, 233, 235, 228, 232, 226, 234, 158, 113, 17, 7, 39, 35, 0, 72, 130, 351,
    352, 353, 355, 354, 356, 357, 433, 434, 432, 430, 486, 485, 168]

def accessPointProperties : SpecialPropertyList where
  required := [75, 77, 79, 111, 36, 103, 81, 260, 255, 289, 261, 247, 322, 250, 249, 246, 88]
  optional := [28, 258, 259, 326, 282, 283, 273, 272, 285, 274, 307, 298, 295, 291, 253, 248, 287,
    321, 320, 17, 309, 245, 251, 35, 0, 72, 130, 351, 352, 353, 355, 354, 357, 486, 485, 168]

def accessRightsProperties : SpecialPropertyList where
  required := [75, 77, 79, 323, 111, 103, 133, 288, 302]
  optional := [28, 252, 357, 486, 485, 168]

def accessUserProperties : SpecialPropertyList where
  required := [75, 77, 79, 323, 111, 103, 318, 265]
  optional := [28, 317, 310, 311, 286, 159, 357, 486, 485, 168]

def accessZoneProperties : SpecialPropertyList where
  required := [75, 77, 79, 323, 296, 111, 36, 103, 81, 268, 269]
  optional := [28, 290, 292, 176, 297, 294, 266, 277, 278, 279, 280, 300, 301, 113, 17, 7, 35, 0,
    72, 130, 351, 352, 353, 355, 354, 356, 357, 486, 485, 168]

def accumulatorProperties : SpecialPropertyList where
  required := [75, 77, 79, 85, 111, 36, 81, 187, 117, 65]
  optional := [28, 31, 103, 185, 192, 190, 191, 184, 183, 186, 45, 59, 182, 17, 113, 52, 35, 0,
    72, 130, 351, 352, 353, 355, 354, 356, 357, 388, 389, 486, 485, 168]

def alertEnrollmentProperties : SpecialPropertyList where
  required := [75, 77, 79, 85, 36, 353, 17, 35, 0, 72, 130]
  optional := [28, 351, 352, 355, 354, 486, 485, 168]

def analogInputProperties : SpecialPropertyList where
  required := [75, 77, 79, 85, 111, 36, 81, 117]
  optional := [28, 31, 103, 118, 69, 65, 106, 22, 113, 17, 45, 59, 25, 52, 35, 0, 72, 130, 351,
    352, 353, 355, 354, 356, 357, 387, 388, 389, 486, 485, 168]

def analogOutputProperties : SpecialPropertyList where
  required := [75, 77, 79, 85, 111, 36, 81, 117, 87, 104, 431]
  optional := [28, 31, 103, 69, 65, 106, 22, 113, 17, 45, 59, 25, 52, 35, 0, 72, 130, 351, 352,
    353, 355, 354, 356, 357, 387, 433, 434, 432, 430, 486, 485, 168]

def analogValueProperties : SpecialPropertyList where
  required := [75, 77, 79, 85, 111, 36, 81, 117]
  optional := [28, 103, 87, 104, 22, 113, 17, 45, 59, 25, 52, 35, 0, 72, 130, 351, 352, 353, 355,
    354, 356, 357, 69, 65, 106, 388, 389, 431, 433, 434, 432, 430, 486, 485, 168]

def averagingProperties : SpecialPropertyList where
  required := [75, 77, 79, 136, 125, 135, 124, 146, 78, 147, 148]
  optional := [150, 151, 149, 28, 486, 485, 168]

def binaryInputProperties : SpecialPropertyList where
  required := [75, 77, 79, 85, 111, 36, 81, 84]
  optional := [28, 31, 103, 46, 4, 16, 15, 115, 33, 114, 113, 17, 6, 35, 0, 72, 130, 351, 352,
    353, 355, 354, 356, 357, 387, 486, 485, 168]

def binaryLightingOutputProperties : SpecialPropertyList where
  required := [75, 77, 79, 85, 111, 81, 373, 377, 386, 87, 104, 431]
  optional := [28, 103, 40, 384, 84, 33, 114, 391, 392, 353, 17, 35, 0, 72, 130, 351, 352, 357,
    433, 434, 432, 430, 486, 485, 168]

def binaryOutputProperties : SpecialPropertyList where
  required := [75, 77, 79, 85, 111, 36, 81, 84, 87, 104, 431]
  optional := [28, 31, 103, 46, 4, 16, 15, 115, 33, 114, 66, 67, 113, 17, 40, 35, 0, 72, 130, 351,
    352, 353, 355, 354, 356, 357, 387, 433, 434, 432, 430, 486, 485, 168]

def binaryValueProperties : SpecialPropertyList where
  required := [75, 77, 79, 85, 111, 36, 81]
  optional := [28, 103, 46, 4, 16, 15, 115, 33, 114, 66, 67, 87, 104, 113, 17, 6, 35, 0, 72, 130,
    351, 352, 353, 355, 354, 356, 357, 431, 433, 434, 432, 430, 486, 485, 168]

def bitStringValueProperties : SpecialPropertyList where
  required := [75, 77, 79, 85, 111]
  optional := [28, 36, 103, 81, 87, 104, 113, 17, 7, 342, 35, 0, 72, 130, 351, 352, 353, 355, 354,
    356, 357, 431, 433, 434, 432, 430, 486, 485, 168]

def calendarProperties : SpecialPropertyList where
  required := [75, 77, 79, 85, 23]
  optional := [28, 486, 485, 168]

def channelProperties : SpecialPropertyList where
  required := [75, 77, 79, 85, 369, 370, 111, 81, 54, 366, 367]
  optional := [28, 103, 368, 365, 353, 17, 35, 36, 0, 72, 130, 351, 352, 357, 433, 486, 485, 168]

def commandProperties : SpecialPropertyList where
  required := [75, 77, 79, 85, 47, 9, 2]
  optional := [28, 3, 111, 36, 103, 353, 17, 35, 0, 72, 130, 351, 352, 357, 433, 486, 485, 168]

def characterStringValueProperties : SpecialPropertyList where
  required := [75, 77, 79, 85, 111]
  optional := [28, 36, 103, 81, 87, 104, 113, 17, 7, 39, 35, 0, 72, 130, 351, 352, 353, 355, 354,
    356, 357, 431, 433, 434, 432, 430, 486, 485, 168]

def credentialDataInputProperties : SpecialPropertyList where
  required := [75, 77, 79, 85, 111, 103, 81, 304, 189]
  optional := [28, 305, 353, 17, 35, 36, 0, 72, 130, 351, 352, 357, 486, 485, 168]

def datePatternValueProperties : SpecialPropertyList where
  required := [75, 77, 79, 85, 111]
  optional := [28, 36, 103, 81, 87, 104, 357, 353, 17, 35, 0, 72, 130, 351, 352, 431, 433, 434,
    432, 430, 486, 485, 168]

def dateValueProperties : SpecialPropertyList where
  required := [75, 77, 79, 85, 111]
  optional := [28, 36, 103, 81, 87, 104, 357, 353, 17, 35, 0, 72, 130, 351, 352, 431, 433, 434,
    432, 430, 486, 485, 168]

def dateTimePatternValueProperties : SpecialPropertyList where
  required := [75, 77, 79, 85, 111]
  optional := [28, 36, 103, 81, 344, 87, 104, 357, 353, 17, 35, 0, 72, 130, 351, 352, 431, 433,
    434, 432, 430, 486, 485, 168]

def dateTimeValueProperties : SpecialPropertyList where
  required := [75, 77, 79, 85, 111]
  optional := [28, 36, 103, 81, 87, 104, 344, 357, 353, 17, 35, 0, 72, 130, 351, 352, 431, 433,
    434, 432, 430, 486, 485, 168]

def deviceProperties : SpecialPropertyList where
  required := [75, 77, 79, 112, 121, 120, 70, 44, 12, 98, 139, 97, 96, 76, 62, 107, 11, 73, 30,
    155]
  optional := [58, 28, 209, 167, 122, 5, 57, 56, 119, 24, 10, 116, 64, 63, 154, 157, 153, 339,
    341, 340, 338, 152, 196, 203, 202, 206, 204, 193, 195, 372, 111, 36, 103, 353, 17, 35, 0, 72,
    130, 351, 352, 357, 481, 486, 485, 484, 168]

def elevatorGroupProperties : SpecialPropertyList where
  required := [75, 77, 79, 474, 465, 345]
  optional := [28, 467, 470, 471, 486, 485, 168]

def escalatorProperties : SpecialPropertyList where
  required := [75, 77, 79, 111, 459, 465, 469, 477, 81, 478]
  optional := [28, 479, 462, 460, 461, 103, 463, 113, 356, 353, 17, 35, 36, 0, 72, 130, 351, 352,
    354, 355, 357, 486, 485, 168]

def eventEnrollmentProperties : SpecialPropertyList where
  required := [75, 77, 79, 37, 72, 83, 78, 36, 35, 0, 17, 130, 353, 111, 103]
  optional := [28, 351, 352, 355, 354, 356, 359, 358, 486, 485, 168]

def eventLogProperties : SpecialPropertyList where
  required := [75, 77, 79, 111, 36, 133, 144, 126, 131, 141, 145]
  optional := [28, 103, 142, 143, 137, 140, 173, 17, 35, 0, 72, 130, 351, 352, 353, 355, 354, 357,
    486, 485, 168]

def fileProperties : SpecialPropertyList where
  required := [75, 77, 79, 43, 42, 71, 13, 99, 41]
  optional := [28, 141, 486, 485, 168]

def globalGroupProperties : SpecialPropertyList where
  required := [75, 77, 79, 345, 85, 111, 36, 347, 81]
  optional := [28, 346, 103, 118, 348, 128, 127, 113, 17, 35, 0, 72, 130, 351, 352, 353, 355, 354,
    356, 349, 350, 357, 486, 485, 168]

def groupProperties : SpecialPropertyList where
  required := [75, 77, 79, 53, 85]
  optional := [28, 486, 485, 168]

def integerValueProperties : SpecialPropertyList where
  required := [75, 77, 79, 85, 111, 117]
  optional := [28, 36, 103, 81, 87, 104, 22, 113, 17, 45, 59, 25, 52, 35, 0, 72, 130, 351, 352,
    353, 355, 354, 356, 357, 69, 65, 106, 388, 389, 431, 433, 434, 432, 430, 486, 485, 168]

def largeAnalogValueProperties : SpecialPropertyList where
  required := [75, 77, 79, 85, 111, 117]
  optional := [28, 36, 103, 81, 87, 104, 22, 113, 17, 45, 59, 25, 52, 35, 0, 72, 130, 351, 352,
    353, 355, 354, 356, 357, 69, 65, 106, 388, 389, 431, 433, 434, 432, 430, 486, 485, 168]

def liftProperties : SpecialPropertyList where
  required := [75, 77, 79, 111, 459, 465, 469, 458, 457, 450, 478, 81, 463]
  optional := [28, 464, 451, 447, 475, 480, 448, 449, 452, 456, 454, 455, 476, 113, 356, 460, 461,
    103, 453, 472, 468, 473, 353, 17, 35, 36, 0, 72, 130, 351, 352, 355, 354, 357, 486, 485, 168]

def lightingOutputProperties : SpecialPropertyList where
  required := [75, 77, 79, 85, 164, 380, 378, 111, 81, 373, 377, 386, 374, 375, 376, 87, 104, 381,
    431]
  optional := [28, 103, 385, 40, 384, 379, 383, 382, 22, 357, 433, 434, 432, 430, 486, 485, 168]

def loadControlProperties : SpecialPropertyList where
  required := [75, 77, 79, 85, 111, 36, 218, 142, 219, 213, 133, 214, 212, 221, 220]
  optional := [28, 222, 103, 215, 17, 113, 35, 0, 72, 130, 351, 352, 353, 355, 354, 356, 357, 433,
    486, 485, 168]

def lifeSafetyPointProperties : SpecialPropertyList where
  required := [75, 77, 79, 85, 164, 111, 36, 103, 81, 160, 175, 163, 161]
  optional := [28, 31, 113, 17, 166, 7, 39, 35, 0, 72, 130, 351, 352, 353, 355, 354, 356, 357,
    158, 162, 156, 117, 159, 433, 486, 485, 168]

def lifeSafetyZoneProperties : SpecialPropertyList where
  required := [75, 77, 79, 85, 164, 111, 36, 103, 81, 160, 175, 163, 161, 165]
  optional := [28, 31, 113, 17, 166, 7, 39, 35, 0, 72, 130, 351, 352, 353, 355, 354, 356, 158,
    159, 433, 486, 485, 168]

def loopProperties : SpecialPropertyList where
  required := [75, 77, 79, 85, 111, 36, 81, 82, 60, 19, 21, 20, 109, 108, 2, 88]
  optional := [28, 103, 93, 94, 49, 50, 26, 27, 14, 61, 68, 22, 113, 17, 34, 25, 35, 0, 72, 130,
    351, 352, 353, 355, 354, 356, 357, 390, 486, 485, 168]

def multistateInputProperties : SpecialPropertyList where
  required := [75, 77, 79, 85, 111, 36, 81, 74]
  optional := [28, 31, 103, 110, 113, 17, 7, 39, 35, 0, 72, 130, 351, 352, 353, 355, 354, 356,
    357, 387, 486, 485, 168]

def multistateOutputProperties : SpecialPropertyList where
  required := [75, 77, 79, 85, 111, 36, 81, 74, 87, 104, 431]
  optional := [28, 31, 103, 110, 113, 17, 40, 35, 0, 72, 130, 351, 352, 353, 355, 354, 356, 357,
    387, 433, 434, 432, 430, 486, 485, 168]

def multistateValueProperties : SpecialPropertyList where
  required := [75, 77, 79, 85, 111, 36, 81, 74]
  optional := [28, 103, 110, 87, 104, 113, 17, 7, 39, 35, 0, 72, 130, 351, 352, 353, 355, 354,
    356, 357, 431, 433, 434, 432, 430, 486, 485, 168]

def networkPortProperties : SpecialPropertyList where
  required := [75, 77, 79, 111, 103, 81, 427, 482, 425, 426, 416, 399, 420]
  optional := [28, 483, 417, 423, 421, 422, 424, 408, 400, 412, 411, 401, 409, 406, 402, 403, 404,
    405, 410, 407, 414, 413, 415, 418, 419, 435, 436, 437, 438, 439, 440, 441, 442, 443, 444, 445,
    446, 64, 63, 172, 170, 169, 171, 429, 428, 353, 17, 35, 0, 72, 130, 351, 352, 36, 357, 486,
    485, 168]

def networkSecurityProperties : SpecialPropertyList where
  required := [75, 77, 79, 327, 332, 335, 333, 328, 330, 331, 334, 337, 336, 329]
  optional := [28, 486, 485, 168]

def notificationClassProperties : SpecialPropertyList where
  required := [75, 77, 79, 17, 86, 1, 102]
  optional := [28, 111, 36, 103, 353, 35, 0, 72, 130, 351, 352, 357, 486, 485, 168]

def notificationForwarderProperties : SpecialPropertyList where
  required := [75, 77, 79, 111, 103, 81, 102, 362, 361, 360]
  optional := [28, 363, 357, 486, 485, 168]

def octetStringValueProperties : SpecialPropertyList where
  required := [75, 77, 79, 85, 111]
  optional := [28, 36, 103, 81, 87, 104, 357, 431, 433, 434, 432, 430, 486, 485, 168]

def positiveIntegerValueProperties : SpecialPropertyList where
  required := [75, 77, 79, 85, 111, 117]
  optional := [28, 36, 103, 81, 87, 104, 22, 113, 17, 45, 59, 25, 52, 35, 0, 72, 130, 351, 352,
    353, 355, 354, 356, 357, 69, 65, 106, 388, 389, 431, 433, 434, 432, 430, 486, 485, 168]

def programProperties : SpecialPropertyList where
  required := [75, 77, 79, 92, 90, 111, 81]
  optional := [100, 29, 91, 28, 48, 103, 353, 17, 35, 36, 0, 72, 130, 351, 352, 357, 486, 485, 168]

def pulseConverterProperties : SpecialPropertyList where
  required := [75, 77, 79, 85, 111, 36, 81, 117, 188, 176, 177, 189, 179, 178]
  optional := [28, 181, 103, 22, 180, 17, 113, 45, 59, 25, 52, 35, 0, 72, 130, 351, 352, 353, 355,
    354, 356, 357, 486, 485, 168]

def scheduleProperties : SpecialPropertyList where
  required := [75, 77, 79, 85, 32, 174, 54, 88, 111, 103, 81]
  optional := [28, 123, 38, 353, 17, 35, 36, 0, 72, 130, 351, 352, 357, 486, 485, 168]

def stagingProperties : SpecialPropertyList where
  required := [75, 77, 79, 85, 493, 494, 111, 36, 103, 81, 117, 496, 88, 69, 65]
  optional := [495, 28, 492, 22, 17, 35, 0, 72, 130, 351, 352, 353, 357, 433, 486, 485, 168]

def structuredViewProperties : SpecialPropertyList where
  required := [75, 77, 79, 208, 211]
  optional := [28, 207, 210, 488, 487, 489, 490, 491, 486, 485, 168]

def timePatternValueProperties : SpecialPropertyList where
  required := [75, 77, 79, 85, 111]
  optional := [28, 36, 103, 81, 87, 104, 357, 353, 17, 35, 0, 72, 130, 351, 352, 431, 433, 434,
    432, 430, 486, 485, 168]

def timeValueProperties : SpecialPropertyList where
  required := [75, 77, 79, 85, 111]
  optional := [28, 36, 103, 81, 87, 104, 357, 353, 17, 35, 0, 72, 130, 351, 352, 431, 433, 434,
    432, 430, 486, 485, 168]

def timerProperties : SpecialPropertyList where
  required := [75, 77, 79, 85, 111, 398, 397]
  optional := [28, 36, 103, 81, 189, 395, 270, 394, 393, 69, 65, 106, 396, 54, 88, 353, 17, 113,
    356, 7, 35, 0, 72, 130, 351, 352, 355, 354, 357, 486, 485, 168]

def trendLogProperties : SpecialPropertyList where
  required := [75, 77, 79, 133, 144, 126, 131, 141, 145, 197, 111, 36]
  optional := [28, 142, 143, 132, 134, 128, 127, 193, 195, 205, 103, 137, 140, 173, 17, 35, 0, 72,
    130, 351, 352, 353, 355, 354, 357, 486, 485, 168]

def trendLogMultipleProperties : SpecialPropertyList where
  required := [75, 77, 79, 111, 36, 133, 132, 197, 134, 144, 126, 131, 141, 145]
  optional := [28, 103, 142, 143, 193, 195, 205, 137, 140, 173, 17, 35, 0, 72, 130, 351, 352, 353,
    355, 354, 357, 486, 485, 168]

/-- The cases of the switch in `property_list_required`, which are those in
`property_list_optional`. -/
def propertyLists : List (UInt32 × SpecialPropertyList) :=
  [(32, accessCredentialProperties), (30, accessDoorProperties), (33, accessPointProperties),
    (34, accessRightsProperties), (35, accessUserProperties), (36, accessZoneProperties),
    (23, accumulatorProperties), (52, alertEnrollmentProperties), (0, analogInputProperties),
    (1, analogOutputProperties), (2, analogValueProperties), (18, averagingProperties),
    (3, binaryInputProperties), (55, binaryLightingOutputProperties), (4, binaryOutputProperties),
    (5, binaryValueProperties), (39, bitStringValueProperties), (6, calendarProperties),
    (53, channelProperties), (7, commandProperties), (40, characterStringValueProperties),
    (37, credentialDataInputProperties), (41, datePatternValueProperties),
    (42, dateValueProperties), (43, dateTimePatternValueProperties),
    (44, dateTimeValueProperties), (8, deviceProperties), (57, elevatorGroupProperties),
    (58, escalatorProperties), (9, eventEnrollmentProperties), (25, eventLogProperties),
    (10, fileProperties), (26, globalGroupProperties), (11, groupProperties),
    (45, integerValueProperties), (46, largeAnalogValueProperties),
    (21, lifeSafetyPointProperties), (22, lifeSafetyZoneProperties), (59, liftProperties),
    (54, lightingOutputProperties), (28, loadControlProperties), (12, loopProperties),
    (13, multistateInputProperties), (14, multistateOutputProperties),
    (19, multistateValueProperties), (56, networkPortProperties), (38, networkSecurityProperties),
    (15, notificationClassProperties), (51, notificationForwarderProperties),
    (47, octetStringValueProperties), (48, positiveIntegerValueProperties),
    (16, programProperties), (24, pulseConverterProperties), (17, scheduleProperties),
    (60, stagingProperties), (29, structuredViewProperties), (49, timePatternValueProperties),
    (50, timeValueProperties), (31, timerProperties), (20, trendLogProperties),
    (27, trendLogMultipleProperties)]

def bacnetPropertyNames : List (UInt32 × String) :=
  [(0, "acked-transitions"), (1, "ack-required"), (2, "action"), (3, "action-text"),
    (4, "active-text"), (5, "active-vt-sessions"), (6, "alarm-value"), (7, "alarm-values"),
    (8, "all"), (9, "all-writes-successful"), (10, "apdu-segment-timeout"), (11, "apdu-timeout"),
    (12, "application-software-version"), (13, "archive"), (14, "bias"),
    (15, "change-of-state-count"), (16, "change-of-state-time"), (17, "notification-class"),
    (18, "(deleted in 135-2001)"), (19, "controlled-variable-reference"),
    (20, "controlled-variable-units"), (21, "controlled-variable-value"), (22, "cov-increment"),
    (23, "datelist"), (24, "daylight-savings-status"), (25, "deadband"),
    (26, "derivative-constant"), (27, "derivative-constant-units"), (28, "description"),
    (29, "description-of-halt"), (30, "device-address-binding"), (31, "device-type"),
    (32, "effective-period"), (33, "elapsed-active-time"), (34, "error-limit"),
    (35, "event-enable"), (36, "event-state"), (37, "event-type"), (38, "exception-schedule"),
    (39, "fault-values"), (40, "feedback-value"), (41, "file-access-method"), (42, "file-size"),
    (43, "file-type"), (44, "firmware-revision"), (45, "high-limit"), (46, "inactive-text"),
    (47, "in-process"), (48, "instance-of"), (49, "integral-constant"),
    (50, "integral-constant-units"), (51, "issue-confirmednotifications"), (52, "limit-enable"),
    (53, "list-of-group-members"), (54, "list-of-object-property-references"),
    (55, "list-of-session-keys"), (56, "local-date"), (57, "local-time"), (58, "location"),
    (59, "low-limit"), (60, "manipulated-variable-reference"), (61, "maximum-output"),
    (62, "max-apdu-length-accepted"), (63, "max-info-frames"), (64, "max-master"),
    (65, "max-pres-value"), (66, "minimum-off-time"), (67, "minimum-on-time"),
    (68, "minimum-output"), (69, "min-pres-value"), (70, "model-name"), (71, "modification-date"),
    (72, "notify-type"), (73, "number-of-APDU-retries"), (74, "number-of-states"),
    (75, "object-identifier"), (76, "object-list"), (77, "object-name"),
    (78, "object-property-reference"), (79, "object-type"), (80, "optional"),
    (81, "out-of-service"), (82, "output-units"), (83, "event-parameters"), (84, "polarity"),
    (85, "present-value"), (86, "priority"), (87, "priority-array"), (88, "priority-for-writing"),
    (89, "process-identifier"), (90, "program-change"), (91, "program-location"),
    (92, "program-state"), (93, "proportional-constant"), (94, "proportional-constant-units"),
    (95, "protocol-conformance-class"), (96, "protocol-object-types-supported"),
    (97, "protocol-services-supported"), (98, "protocol-version"), (99, "read-only"),
    (100, "reason-for-halt"), (101, "recipient"), (102, "recipient-list"), (103, "reliability"),
    (104, "relinquish-default"), (105, "required"), (106, "resolution"),
    (107, "segmentation-supported"), (108, "setpoint"), (109, "setpoint-reference"),
    (110, "state-text"), (111, "status-flags"), (112, "system-status"), (113, "time-delay"),
    (114, "time-of-active-time-reset"), (115, "time-of-state-count-reset"),
    (116, "time-synchronization-recipients"), (117, "units"), (118, "update-interval"),
    (119, "utc-offset"), (120, "vendor-identifier"), (121, "vendor-name"),
    (122, "vt-classes-supported"), (123, "weekly-schedule"), (124, "attempted-samples"),
    (125, "average-value"), (126, "buffer-size"), (127, "client-cov-increment"),
    (128, "cov-resubscription-interval"), (129, "current-notify-time"),
    (130, "event-time-stamps"), (131, "log-buffer"), (132, "log-device-object-property"),
    (133, "enable"), (134, "log-interval"), (135, "maximum-value"), (136, "minimum-value"),
    (137, "notification-threshold"), (138, "previous-notify-time"), (139, "protocol-revision"),
    (140, "records-since-notification"), (141, "record-count"), (142, "start-time"),
    (143, "stop-time"), (144, "stop-when-full"), (145, "total-record-count"),
    (146, "valid-samples"), (147, "window-interval"), (148, "window-samples"),
    (149, "maximum-value-timestamp"), (150, "minimum-value-timestamp"), (151, "variance-value"),
    (152, "active-cov-subscriptions"), (153, "backup-failure-timeout"),
    (154, "configuration-files"), (155, "database-revision"), (156, "direct-reading"),
    (157, "last-restore-time"), (158, "maintenance-required"), (159, "member-of"), (160, "mode"),
    (161, "operation-expected"), (162, "setting"), (163, "silenced"), (164, "tracking-value"),
    (165, "zone-members"), (166, "life-safety-alarm-values"), (167, "max-segments-accepted"),
    (168, "profile-name"), (169, "auto-slave-discovery"), (170, "manual-slave-address-binding"),
    (171, "slave-address-binding"), (172, "slave-proxy-enable"), (173, "last-notify-record"),
    (174, "schedule-default"), (175, "accepted-modes"), (176, "adjust-value"), (177, "count"),
    (178, "count-before-change"), (179, "count-change-time"), (180, "COV-period"),
    (181, "input-reference"), (182, "limit-monitoring-interval"), (183, "logging-object"),
    (184, "logging-record"), (185, "prescale"), (186, "pulse-rate"), (187, "scale"),
    (188, "scale-factor"), (189, "update-time"), (190, "value-before-change"), (191, "value-set"),
    (192, "value-change-time"), (193, "align-intervals"), (195, "interval-offset"),
    (196, "last-restart-reason"), (197, "logging-type"), (203, "time-of-device-restart"),
    (204, "time-synchronization-interval"), (205, "trigger"),
    (206, "utc-time-synchronization-recipients"), (207, "node-subtype"), (208, "node-type"),
    (209, "structured-object-list"), (210, "subordinate-annotations"), (211, "subordinate-list"),
    (212, "actual-shed-level"), (213, "duty-window"), (214, "expected-shed-level"),
    (215, "full-duty-baseline"), (218, "requested-shed-level"), (219, "shed-duration"),
    (220, "shed-level-descriptions"), (221, "shed-levels"), (222, "state-description"),
    (226, "door-alarm-state"), (227, "door-extended-pulse-time"), (228, "door-members"),
    (229, "door-open-too-long-time"), (230, "door-pulse-time"), (231, "door-status"),
    (232, "door-unlock-delay-time"), (233, "lock-status"), (234, "masked-alarm-values"),
    (235, "secured-status"), (244, "absentee-limit"), (245, "access-alarm-events"),
    (246, "access-doors"), (247, "access-event"), (248, "access-event-authentication-factor"),
    (249, "access-event-credential"), (250, "access-event-time"),
    (251, "access-transaction-events"), (252, "accompaniment"), (253, "accompaniment-time"),
    (254, "activation-time"), (255, "active-authentication-policy"),
    (256, "assigned-access-rights"), (257, "authentication-factors"),
    (258, "authentication-policy-list"), (259, "authentication-policy-names"),
    (260, "authentication-status"), (261, "authorization-mode"), (262, "belongs-to"),
    (263, "credential-disable"), (264, "credential-status"), (265, "credentials"),
    (266, "credentials-in-zone"), (267, "days-remaining"), (268, "entry-points"),
    (269, "exit-points"), (270, "expiration-time"), (271, "extended-time-enable"),
    (272, "failed-attempt-events"), (273, "failed-attempts"), (274, "failed-attempts-time"),
    (275, "last-access-event"), (276, "last-access-point"), (277, "last-credential-added"),
    (278, "last-credential-added-time"), (279, "last-credential-removed"),
    (280, "last-credential-removed-time"), (281, "last-use-time"), (282, "lockout"),
    (283, "lockout-relinquish-time"), (284, "master-exemption"), (285, "max-failed-attempts"),
    (286, "members"), (287, "muster-point"), (288, "negative-access-rules"),
    (289, "number-of-authentication-policies"), (290, "occupancy-count"),
    (291, "occupancy-count-adjust"), (292, "occupancy-count-enable"),
    (293, "occupancy-exemption"), (294, "occupancy-lower-limit"),
    (295, "occupancy-lower-limit-enforced"), (296, "occupancy-state"),
    (297, "occupancy-upper-limit"), (298, "occupancy-upper-limit-enforced"),
    (299, "passback-exemption"), (300, "passback-mode"), (301, "passback-timeout"),
    (302, "positive-access-rules"), (303, "reason-for-disable"), (304, "supported-formats"),
    (305, "supported-format-classes"), (306, "threat-authority"), (307, "threat-level"),
    (308, "trace-flag"), (309, "transaction-notification-class"),
    (310, "user-external-identifier"), (311, "user-information-reference"),
    (311, "user-information-reference"), (317, "user-name"), (318, "user-type"),
    (319, "uses-remaining"), (320, "zone-from"), (321, "zone-to"), (326, "verification-time"),
    (327, "base-device-security-policy"), (328, "distribution-key-revision"),
    (329, "do-not-hide"), (330, "key-sets"), (331, "last-key-server"),
    (332, "network-access-security-policies"), (333, "packet-reorder-time"),
    (334, "security-pdu-timeout"), (335, "security-time-window"),
    (336, "supported-security-algorithm"), (337, "update-key-set-timeout"),
    (338, "backup-and-restore-state"), (339, "backup-preparation-time"),
    (340, "restore-completion-time"), (341, "restore-preparation-time"), (342, "bit-mask"),
    (343, "bit-text"), (344, "is-utc"), (345, "group-members"), (346, "group-member-names"),
    (347, "member-status-flags"), (348, "requested-update-interval"), (349, "covu-period"),
    (350, "covu-recipients"), (351, "event-message-texts"), (352, "event-message-texts-config"),
    (353, "event-detection-enable"), (354, "event-algorithm-inhibit"),
    (355, "event-algorithm-inhibit-ref"), (356, "time-delay-normal"),
    (357, "reliability-evaluation-inhibit"), (358, "fault-parameters"), (359, "fault-type"),
    (360, "local-forwarding-only"), (361, "process-identifier-filter"),
    (362, "subscribed-recipients"), (363, "port-filter"), (364, "authorization-exemptions"),
    (365, "allow-group-delay-inhibit"), (366, "channel-number"), (367, "control-groups"),
    (368, "execution-delay"), (369, "last-priority"), (370, "write-status"),
    (371, "property-list"), (372, "serial-number"), (373, "blink-warn-enable"),
    (374, "default-fade-time"), (375, "default-ramp-rate"), (376, "default-step-increment"),
    (377, "egress-time"), (378, "in-progress"), (379, "instantaneous-power"),
    (380, "lighting-command"), (381, "lighting-command-default-priority"),
    (382, "max-actual-value"), (383, "min-actual-value"), (384, "power"), (385, "transition"),
    (386, "egress-active"), (387, "inteface-value"), (388, "fault-high-limit"),
    (389, "fault-low-limit"), (390, "low-diff-limit"), (391, "strike-count"),
    (392, "strike-count"), (393, "default-timeout"), (394, "initial-timeout"),
    (395, "last-state-change"), (396, "state-change-values"), (397, "timer-running"),
    (398, "timer-state"), (399, "apdu-length"), (400, "ip-address"), (401, "ip-default-gateway"),
    (402, "ip-dhcp-enable"), (403, "ip-dhcp-lease-time"), (404, "ip-dhcp-lease-time-remaining"),
    (405, "ip-dhcp-server"), (406, "ip-dns-server"), (407, "bacnet-ip-global-address"),
    (408, "bacnet-ip-mode"), (409, "bacnet-ip-multicast-address"),
    (410, "bacnet-ip-nat-traversal"), (411, "ip-subnet-mask"), (412, "bacnet-ip-udp-port"),
    (413, "bbmd-accept-fd-registrations"), (414, "bbmd-broadcast-distribution-table"),
    (415, "bbmd-foreign-device-table"), (416, "changes-pending"), (417, "command"),
    (418, "fd-bbmd-address"), (419, "fd-subscription-lifetime"), (420, "link-speed"),
    (421, "link-speeds"), (422, "link-speed-autonegotiate"), (423, "mac-address"),
    (424, "network-interface-name"), (425, "network-number"), (426, "network-number-quality"),
    (427, "network-type"), (428, "routing-table"), (429, "virtual-mac-address-table"),
    (430, "command-time-array"), (431, "current-command-priority"), (432, "last-command-time"),
    (433, "value-source"), (434, "value-source-array"), (435, "bacnet-ipv6-mode"),
    (436, "ipv6-address"), (437, "ipv6-prefix-length"), (438, "bacnet-ipv6-udp-port"),
    (439, "ipv6-default-gateway"), (440, "bacnet-ipv6-multicast-address"),
    (441, "ipv6-dns-server"), (442, "ipv6-auto-addressing-enable"), (443, "ipv6-dhcp-lease-time"),
    (444, "ipv6-dhcp-lease-time-remaining"), (445, "ipv6-dhcp-server"), (446, "ipv6-zone-index"),
    (447, "assigned-landing-calls"), (448, "car-assigned-direction"), (449, "car-door-command"),
    (450, "car-door-status"), (451, "car-door-text"), (452, "car-door-zone"),
    (453, "car-drive-status"), (454, "car-load"), (455, "car-load-units"), (456, "car-mode"),
    (457, "car-moving-direction"), (458, "car-position"), (459, "elevator-group"),
    (460, "energy-meter"), (461, "energy-meter-ref"), (462, "escalator-mode"),
    (463, "fault-signals"), (464, "floor-text"), (465, "group-id"), (467, "group-mode"),
    (468, "higher-deck"), (469, "installation-id"), (470, "landing-calls"),
    (471, "landing-call-control"), (472, "landing-door-status"), (473, "lower-deck"),
    (474, "machine-room-id"), (475, "making-car-call"), (476, "next-stopping-floor"),
    (477, "operation-direction"), (478, "passenger-alarm"), (479, "power-mode"),
    (480, "registered-car-call"), (481, "active-cov-multiple-subscriptions"),
    (482, "protocol-level"), (483, "reference-port"), (484, "deployed-profile-location"),
    (485, "profile-location"), (486, "tags"), (487, "subordinate-node-types"),
    (488, "subordinate-tags"), (489, "subordinate-relationships"),
    (490, "default-subordinate-relationship"), (491, "represents")]

/-- `property_list_special`: of an unknown type, what every object has. -/
def propertyListSpecial (objectType : UInt32) : SpecialPropertyList :=
  (propertyLists.lookup objectType).getD defaultProperties

/-- `bactext_property_name`. -/
def bactextPropertyName (index : UInt32) : String :=
  indtextByIndexSplitDefault bacnetPropertyNames index 512 ashraeReservedString
    vendorProprietaryString

/-! ### What the tables hold -/

/-- What is true of the default and of every case is true of every type. -/
theorem propertyListSpecial_induction {P : UInt32 → SpecialPropertyList → Prop}
    (hdefault : ∀ t, P t defaultProperties) (hcases : ∀ e ∈ propertyLists, P e.1 e.2)
    (t : UInt32) : P t (propertyListSpecial t) := by
  rw [propertyListSpecial]
  cases h : propertyLists.lookup t with
  | none => exact hdefault t
  | some l =>
    obtain ⟨_, _, heq, -⟩ := List.lookup_eq_some_iff.mp h
    exact hcases (t, l) (by simp [heq])

/-- Both lists are read whole: together they have no more than 130 properties. -/
theorem length_propertyListSpecial_le (t : UInt32) :
    (propertyListSpecial t).required.length + (propertyListSpecial t).optional.length ≤ 130 :=
  propertyListSpecial_induction (P := fun _ l => l.required.length + l.optional.length ≤ 130)
    (fun _ => by decide) (by decide) t

/-- The object-list is read element by element, by `epics`. -/
theorem propObjectList_not_optional (t : UInt32) :
    propObjectList ∉ (propertyListSpecial t).optional :=
  propertyListSpecial_induction (P := fun _ l => propObjectList ∉ l.optional)
    (fun _ => by decide) (by decide +kernel) t

theorem distinct_propertyLists :
    (propertyLists.all fun e => distinct 0 ((e.2.required ++ e.2.optional).map UInt32.toNat)) =
      true := by
  decide +kernel

/-- No property is in both lists. -/
theorem required_not_optional {t p : UInt32} (hp : p ∈ (propertyListSpecial t).required) :
    p ∉ (propertyListSpecial t).optional := by
  have hdistinct := propertyListSpecial_induction
    (P := fun _ l => distinct 0 ((l.required ++ l.optional).map UInt32.toNat) = true)
    (fun _ => by decide) (List.all_eq_true.mp distinct_propertyLists) t
  have hnodup := List.Nodup.of_map _ (nodup_of_distinct hdistinct).1
  exact fun hoptional => (List.nodup_append.mp hnodup).2.2 p hp p hoptional rfl

/-! ### Properties with the same name -/

/-- A number that differs for different texts of the table. -/
def textHash (s : String) : Nat :=
  s.toByteArray.data.toList.foldl (fun n c => n * 256 + c.toNat) 0 % 15343

/-- The table without the second of its entries for `PROP_USER_INFORMATION_REFERENCE`, and without
`PROP_TIME_OF_STRIKE_COUNT_RESET`, whose text is that of `PROP_STRIKE_COUNT`. -/
def namedProperties : List (UInt32 × String) :=
  (bacnetPropertyNames.take 293 ++ bacnetPropertyNames.drop 294).filter fun e => e.1.toNat != 392

theorem nodup_textHash :
    (((512, ashraeReservedString) :: namedProperties).map fun e => textHash e.2).Nodup :=
  have hdistinct : distinct 0 (((512, ashraeReservedString) :: namedProperties).map
      fun e => textHash e.2) = true := by
    decide +kernel
  (nodup_of_distinct hdistinct).1

/-- An entry that repeats an earlier one can be left out. -/
theorem mem_without_repeated {α : Type} {l : List α} {i j : Nat} (hji : j < i) (h : l[i]? = l[j]?)
    {e : α} (he : e ∈ l) : e ∈ l.take i ++ l.drop (i + 1) := by
  obtain ⟨k, hk⟩ := List.getElem?_of_mem he
  rw [List.mem_append]
  by_cases hlt : k < i
  · left
    exact List.mem_of_getElem? ((List.getElem?_take_of_lt hlt).trans hk)
  · by_cases heq : k = i
    · left
      rw [heq, h] at hk
      exact List.mem_of_getElem? ((List.getElem?_take_of_lt hji).trans hk)
    · right
      have hdrop : (l.drop (i + 1))[k - (i + 1)]? = l[k]? := by
        rw [List.getElem?_drop]
        congr 1
        omega
      exact List.mem_of_getElem? (hdrop.trans hk)

theorem mem_namedProperties {e : UInt32 × String} (he : e ∈ bacnetPropertyNames)
    (h392 : e.1.toNat ≠ 392) : e ∈ namedProperties := by
  rw [namedProperties, List.mem_filter]
  exact ⟨mem_without_repeated (j := 292) (by decide) (by rfl) he, by simpa using h392⟩

/-- The text of a property is that of its entry, else the text of a reserved number. -/
theorem bactextPropertyName_cases {p : UInt32} (hlt : p.toNat < 512) (h392 : p.toNat ≠ 392) :
    (∃ e ∈ namedProperties, e.1 = p ∧ bactextPropertyName p = e.2) ∨
      (¬ (∃ e ∈ bacnetPropertyNames, e.1 = p) ∧ bactextPropertyName p = ashraeReservedString) := by
  have hbefore : p < 512 := hlt
  rw [bactextPropertyName, indtextByIndexSplitDefault, if_pos hbefore, indtextByIndexDefault]
  cases h : bacnetPropertyNames.find? fun e => e.1 == p with
  | none =>
    refine .inr ⟨?_, rfl⟩
    rintro ⟨e, he, rfl⟩
    simpa using List.find?_eq_none.mp h e he
  | some e =>
    have heq : e.1 = p := by simpa using List.find?_some h
    exact .inl ⟨e, mem_namedProperties (List.mem_of_find?_eq_some h) (heq ▸ h392), heq, rfl⟩

theorem text_ne_reserved {e : UInt32 × String} (he : e ∈ namedProperties)
    (hlt : e.1.toNat < 512) : e.2 ≠ ashraeReservedString := by
  intro htext
  have heq : e = (512, ashraeReservedString) :=
    List.inj_on_of_nodup_map nodup_textHash (List.mem_cons_of_mem _ he) List.mem_cons_self
      (by rw [htext])
  rw [heq] at hlt
  exact absurd hlt (by decide)

/-- The ids of the table, as bits. -/
def namedBits : Nat := bitSet (bacnetPropertyNames.map fun e => e.1.toNat)

theorem testBit_namedBits_eq_false {p : UInt32} (h : ¬ (∃ e ∈ bacnetPropertyNames, e.1 = p)) :
    namedBits.testBit p.toNat = false := by
  rw [← Bool.not_eq_true, namedBits, testBit_bitSet, List.mem_map]
  rintro ⟨e, he, hep⟩
  exact h ⟨e, he, UInt32.toNat_inj.mp hep⟩

/-- The property is one of those whose texts differ, or has no text. -/
def isDistinct (p : UInt32) : Bool := Nat.blt p.toNat 512 && p.toNat != 392

/-- The properties of the lists without a text. -/
def unnamed (l : SpecialPropertyList) : List UInt32 :=
  (l.required ++ l.optional).filter fun p => !namedBits.testBit p.toNat

/-- `PROP_TIME_OF_STRIKE_COUNT_RESET` is only in the lists of a Binary Lighting Output, and of the
properties of an object that is not a Staging at most one has no text. -/
theorem unnamed_propertyLists :
    (propertyLists.all fun e => e.1.toNat == 55 || e.1.toNat == 60 ||
      ((e.2.required ++ e.2.optional).all isDistinct && Nat.ble (unnamed e.2).length 1)) = true := by
  decide +kernel

theorem unnamed_propertyListSpecial {t : UInt32} (h55 : t ≠ 55) (h60 : t ≠ 60) :
    (∀ p ∈ (propertyListSpecial t).required ++ (propertyListSpecial t).optional,
      p.toNat < 512 ∧ p.toNat ≠ 392) ∧ (unnamed (propertyListSpecial t)).length ≤ 1 := by
  have hcheck := propertyListSpecial_induction
    (P := fun t l => (t.toNat == 55 || t.toNat == 60 ||
      ((l.required ++ l.optional).all isDistinct && Nat.ble (unnamed l).length 1)) = true)
    (fun t => by rw [Bool.or_eq_true]; right; decide +kernel)
    (List.all_eq_true.mp unnamed_propertyLists) t
  have hne55 : t.toNat ≠ 55 := fun h => h55 (UInt32.toNat_inj.mp h)
  have hne60 : t.toNat ≠ 60 := fun h => h60 (UInt32.toNat_inj.mp h)
  simp only [Bool.or_eq_true, beq_iff_eq, hne55, hne60, false_or, Bool.and_eq_true,
    List.all_eq_true, isDistinct, bne_iff_ne, Nat.blt, Nat.ble_eq] at hcheck
  exact hcheck

theorem eq_of_length_le_one {α : Type} {l : List α} (h : l.length ≤ 1) {a b : α} (ha : a ∈ l)
    (hb : b ∈ l) : a = b := by
  obtain ⟨x, hx⟩ : ∃ x, l = [x] :=
    List.length_eq_one_iff.mp (Nat.le_antisymm h (List.length_pos_of_mem ha))
  rw [hx, List.mem_singleton] at ha hb
  rw [ha, hb]

/-- Different properties of an object have different texts, unless it is a Binary Lighting Output
or a Staging. -/
theorem bactextPropertyName_injOn {t : UInt32} (h55 : t ≠ 55) (h60 : t ≠ 60) :
    Set.InjOn bactextPropertyName
      {p | p ∈ (propertyListSpecial t).required ++ (propertyListSpecial t).optional} := by
  obtain ⟨hids, hunnamed⟩ := unnamed_propertyListSpecial h55 h60
  intro p hp q hq hpq
  obtain ⟨hplt, hp392⟩ := hids p hp
  obtain ⟨hqlt, hq392⟩ := hids q hq
  have hinj := List.inj_on_of_nodup_map nodup_textHash
  rcases bactextPropertyName_cases hplt hp392 with ⟨e, he, rfl, hpe⟩ | ⟨hpnone, hpe⟩ <;>
    rcases bactextPropertyName_cases hqlt hq392 with ⟨e', he', rfl, hqe⟩ | ⟨hqnone, hqe⟩
  · have heq : e = e' := hinj (List.mem_cons_of_mem _ he) (List.mem_cons_of_mem _ he')
      (by rw [← hpe, ← hqe, hpq])
    rw [heq]
  · exact absurd (hpe.symm.trans (hpq.trans hqe)) (text_ne_reserved he hplt)
  · exact absurd (hqe.symm.trans (hpq.symm.trans hpe)) (text_ne_reserved he' hqlt)
  · -- of the properties without a text there is at most one
    have hmem : ∀ r ∈ (propertyListSpecial t).required ++ (propertyListSpecial t).optional,
        ¬ (∃ e ∈ bacnetPropertyNames, e.1 = r) →
        r ∈ unnamed (propertyListSpecial t) := by
      intro r hr hnone
      rw [unnamed, List.mem_filter]
      exact ⟨hr, by rw [testBit_namedBits_eq_false hnone]; rfl⟩
    exact eq_of_length_le_one hunnamed (hmem p hp hpnone) (hmem q hq hqnone)

end Bacnet
